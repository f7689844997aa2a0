import SetProtocol.Modules.GeneralIndexHistories

/-!
# Trades and targets

A trade that exchanges something moves its component towards its target, by no more than the
trade maximum and not across the target, up to one unit that the conversion to a virtual unit
may take away.  The component then rests for its cool-off period, which a new initialization
of the module cuts short.
-/

namespace SetProtocol.GeneralIndexModule

open Transaction PreciseUnitMath

variable {P : Type} {exchanges : Exchanges P} {module component : Address} {caller : Caller}
variable {world next : World P} {event : TradeExecuted} {ethQuantityLimit : ℕ}

/-- The fixed side of an order is exchanged exactly. -/
def Exact (order : TradeOrder) (exchanged : Exchanged) : Prop :=
  (order.isSendTokenFixed = true → exchanged.sent = order.sendQuantity) ∧
    (order.isSendTokenFixed = false → exchanged.received = order.floatingQuantityLimit)

/-- How much of the component was sold, or bought before the fee. -/
def TradeExecuted.componentQuantity (event : TradeExecuted) (component : Address) : ℕ :=
  if event.sellComponent = component then event.netAmountSold
  else event.netAmountReceived + event.protocolFee

theorem componentQuantity_executed {tradeInfo : TradeInfo} {netSent netReceived fee : ℕ} :
    (tradeInfo.executed caller netSent netReceived fee).componentQuantity component =
      if tradeInfo.sendToken = component then netSent else netReceived + fee := rfl

/-- Within the trade maximum, towards the target and not across it. -/
structure TowardsTarget (component : Address) (world next : World P)
    (event : TradeExecuted) : Prop where
  limited : event.componentQuantity component ≤ (world.executionInfo component).maxSize
  sold : event.sellComponent = component →
    normalizedTargetUnit world component < world.setToken.defaultRealUnit component ∧
      normalizedTargetUnit world component ≤ next.setToken.defaultRealUnit component + 1 ∧
      next.setToken.defaultRealUnit component ≤ world.setToken.defaultRealUnit component
  bought : event.buyComponent = component →
    world.setToken.defaultRealUnit component < normalizedTargetUnit world component ∧
      world.setToken.defaultRealUnit component ≤ next.setToken.defaultRealUnit component + 1 ∧
      next.setToken.defaultRealUnit component ≤ normalizedTargetUnit world component

/-- What is read back of a stored unit is this unit or the next lower one. -/
theorem read_bounds {setToken : SetToken} {unit : ℕ}
    (hmultiplier : 0 < setToken.positionMultiplier)
    (hscale : setToken.positionMultiplier ≤ preciseUnitInt)
    (hstored : Position.StoresUnit setToken component unit) :
    setToken.defaultRealUnit component ≤ unit ∧
      unit ≤ setToken.defaultRealUnit component + 1 := by
  obtain ⟨-, hread, -⟩ := hstored.reads hmultiplier
  rw [← cast_preciseUnit] at hscale
  rw [hread]
  exact ⟨Rounding.thereAndBack_le preciseUnit_pos _ _,
    Rounding.le_thereAndBack_succ (by omega) (by omega) _⟩

/-- A sale. -/
theorem sold_towardsTarget {tradeInfo : TradeInfo} {netSent netReceived fee : ℕ}
    (hmultiplier : 0 < world.setToken.positionMultiplier)
    (hscale : world.setToken.positionMultiplier ≤ preciseUnitInt)
    (hsupply : preciseUnit ≤ world.setToken.totalSupply)
    (htracked : currentNotional world component ≤ world.heldBalance component)
    (hsell : targetNotional world component < currentNotional world component)
    (hsend : tradeInfo.sendToken = component)
    (hsettlement : Settlement exchanges module world component tradeInfo next netSent
      netReceived fee) (hquantity : netSent ≤ tradeSize module world component) :
    normalizedTargetUnit world component < world.setToken.defaultRealUnit component ∧
      normalizedTargetUnit world component ≤ next.setToken.defaultRealUnit component + 1 ∧
      next.setToken.defaultRealUnit component ≤ world.setToken.defaultRealUnit component := by
  have hless := hquantity
  rw [tradeSize, if_pos hsell, le_min_iff] at hless
  have hleft : currentNotional world component + next.heldBalance component -
      world.heldBalance component = currentNotional world component - netSent := by
    have hheld := hsettlement.heldSent
    rw [hsend] at hheld
    omega
  have hstored := hsettlement.sent.stores
  rw [hsend] at hstored
  have hstored := hstored htracked
  change Position.StoresUnit next.setToken component (Allocation.unitFor preciseUnit
    world.setToken.totalSupply (currentNotional world component +
      next.heldBalance component - world.heldBalance component)) at hstored
  rw [hleft] at hstored
  have hsame := hsettlement.repositioned.positionMultiplier
  obtain ⟨hdown, hup⟩ := read_bounds (hsame ▸ hmultiplier) (hsame ▸ hscale) hstored
  have hlow : targetNotional world component ≤
      currentNotional world component - netSent := by omega
  obtain ⟨habove, hbelow⟩ := Allocation.unitFor_between preciseUnit_pos
    (preciseUnit_pos.trans_le hsupply) hlow (Nat.sub_le _ netSent)
  exact ⟨Allocation.target_lt_of_wanted_lt preciseUnit_pos hsell, habove.trans hup,
    hdown.trans hbelow⟩

/-- A purchase. -/
theorem bought_towardsTarget {tradeInfo : TradeInfo} {netSent netReceived fee : ℕ}
    (hmultiplier : 0 < world.setToken.positionMultiplier)
    (hscale : world.setToken.positionMultiplier ≤ preciseUnitInt)
    (hsupply : preciseUnit ≤ world.setToken.totalSupply)
    (hfee : feeRate module world < preciseUnit)
    (htracked : currentNotional world component ≤ world.heldBalance component)
    (hunmet : world.setToken.defaultRealUnit component ≠ normalizedTargetUnit world component)
    (hbuy : ¬targetNotional world component < currentNotional world component)
    (hreceive : tradeInfo.receiveToken = component)
    (hsettlement : Settlement exchanges module world component tradeInfo next netSent
      netReceived fee) (hquantity : netReceived + fee ≤ tradeSize module world component)
    (hsome : 0 < netReceived + fee) :
    world.setToken.defaultRealUnit component < normalizedTargetUnit world component ∧
      world.setToken.defaultRealUnit component ≤ next.setToken.defaultRealUnit component + 1 ∧
      next.setToken.defaultRealUnit component ≤ normalizedTargetUnit world component := by
  have hless := hquantity
  rw [tradeSize, if_neg hbuy, le_min_iff] at hless
  have hnet := Allocation.net_le_of_grossed hfee hless.2
  have hpositive := Allocation.net_pos preciseUnit_pos hfee hsome
  rw [← hsettlement.fee_eq] at hnet hpositive
  -- something is missing, so the unit is not above its target
  have hbelow : world.setToken.defaultRealUnit component <
      normalizedTargetUnit world component := by
    refine lt_of_le_of_ne (not_lt.mp fun habove => ?_) hunmet
    have hnone : targetNotional world component ≤ currentNotional world component :=
      Allocation.wanted_le_held preciseUnit_pos hsupply habove
    omega
  have hstored := hsettlement.received
  rw [hreceive] at hstored
  have hstored := hstored htracked
  have hsame := hsettlement.repositioned.positionMultiplier
  obtain ⟨hdown, hup⟩ := read_bounds (hsame ▸ hmultiplier) (hsame ▸ hscale) hstored
  have hrises : world.setToken.defaultRealUnit component ≤ Allocation.unitFor preciseUnit
      world.setToken.totalSupply (currentNotional world component + netReceived) :=
    Allocation.le_unitFor preciseUnit_pos (preciseUnit_pos.trans_le hsupply)
      (Nat.lt_add_of_pos_right hpositive)
  have hstays : Allocation.unitFor preciseUnit world.setToken.totalSupply
      (currentNotional world component + netReceived) ≤ normalizedTargetUnit world component :=
    Allocation.unitFor_le_of_le_wanted preciseUnit_pos hsupply (by
      change _ ≤ targetNotional world component
      omega)
  exact ⟨hbelow, hrises.trans hup, hdown.trans hstays⟩

/-! ## The cool-off period -/

/-- The component has been traded at this time or later. -/
def TradedSince (component : Address) (time : ℕ) (world : World P) : Prop :=
  time ≤ world.timestamp ∧ time ≤ (world.executionInfo component).lastTradeTimestamp

theorem tradedSince_of_ok {call : IndexCall module} {time : ℕ}
    (hkeeps : ¬Initializes call) (htraded : TradedSince component time world)
    (hcall : perform exchanges module call world = .ok next) :
    TradedSince component time next := by
  have heffects := effects_of_ok hcall
  refine ⟨htraded.1.trans heffects.timestamp_le, ?_⟩
  rcases heffects.tradeTimes hkeeps component with hsame | hnow
  · rw [hsame]
    exact htraded.2
  · rw [hnow]
    exact htraded.1

/-- Whoever trades the component again too early is refused. -/
theorem reverts_of_tradedSince {time : ℕ} (htraded : TradedSince component time world)
    (hearly : world.timestamp < time + (world.executionInfo component).coolOffPeriod) :
    ∃ reason, trade exchanges module world caller component ethQuantityLimit =
      .error reason := by
  cases hcall : trade exchanges module world caller component ethQuantityLimit with
  | error reason => exact ⟨reason, rfl⟩
  | ok result =>
      obtain ⟨hmay, -⟩ := trade_eq_ok hcall
      have hcooled := hmay.cooledOff
      have hsince := htraded.2
      omega

/-- A trade that exchanges something goes towards the target, and no second trade of the
component follows before it has cooled off, whatever is called in between, unless the module is
initialized again. -/
theorem trade_towardsTarget (hmultiplier : 0 < world.setToken.positionMultiplier)
    (hscale : world.setToken.positionMultiplier ≤ preciseUnitInt)
    (hsupply : preciseUnit ≤ world.setToken.totalSupply)
    (hfee : feeRate module world < preciseUnit)
    (htracked : currentNotional world component ≤ world.heldBalance component)
    (hexact : ∀ tradeInfo after exchanged,
      createTradeInfo exchanges module world component ethQuantityLimit = .ok tradeInfo →
      exchanges.execute tradeInfo.order world.protocols = .ok (after, exchanged) →
        Exact tradeInfo.order exchanged)
    (hcall : trade exchanges module world caller component ethQuantityLimit =
      .ok (next, event))
    (hquantity : 0 < event.componentQuantity component) :
    TowardsTarget component world next event ∧
      ∀ calls : List (IndexCall module), (∀ call ∈ calls, ¬Initializes call) →
        let later := run (perform exchanges module) calls next
        later.timestamp <
            world.timestamp + (later.executionInfo component).coolOffPeriod →
          ∀ caller ethQuantityLimit, ∃ reason,
            trade exchanges module later caller component ethQuantityLimit =
              .error reason := by
  obtain ⟨hmay, tradeInfo, netSent, netReceived, fee, hinfo, hopened, hsized, hsettlement,
    rfl⟩ := trade_eq_ok hcall
  obtain ⟨after, hexecutes⟩ := hsettlement.executes
  obtain ⟨hsent, hreceived⟩ := hexact _ _ _ hinfo hexecutes
  constructor
  · cases hdirection : tradeInfo.isSendTokenFixed with
    | true =>
        obtain ⟨hsend, hreceive, hsize⟩ := hsized.sell hdirection
        have hall : netSent = tradeSize module world component :=
          (hsent hdirection).trans hsize
        refine ⟨?_, fun _ => ?_, fun hbought => ?_⟩
        · rw [componentQuantity_executed, if_pos hsend, hall]
          exact min_le_left _ _
        · exact sold_towardsTarget hmultiplier hscale hsupply htracked
            (hsized.direction.mp hdirection) hsend hsettlement hall.le
        · exact absurd (hbought.symm.trans hreceive) hmay.other
    | false =>
        obtain ⟨hsend, hreceive, -, hsize⟩ := hsized.buy hdirection
        have hall : netReceived + fee = tradeSize module world component :=
          (hreceived hdirection).trans hsize
        have hnotSold : ¬tradeInfo.sendToken = component := fun hsold =>
          hmay.other (hsold.symm.trans hsend)
        rw [componentQuantity_executed, if_neg hnotSold] at hquantity
        refine ⟨?_, fun hsold => absurd hsold hnotSold, fun _ => ?_⟩
        · rw [componentQuantity_executed, if_neg hnotSold, hall]
          exact min_le_left _ _
        · have hbuy := mt hsized.direction.mpr (by rw [hdirection]; exact Bool.false_ne_true)
          exact bought_towardsTarget hmultiplier hscale hsupply hfee htracked hsized.unmet hbuy
            hreceive hsettlement hall.le hquantity
  · intro calls hkeeps later hearly caller ethQuantityLimit
    have hstart : TradedSince component world.timestamp next := by
      refine ⟨hsettlement.repositioned.timestamp.ge, ?_⟩
      rw [hsettlement.executionInfo, Function.update_self]
    have htraded : TradedSince component world.timestamp later :=
      run_preserves (TradedSince component world.timestamp)
        (fun call hmem _ _ => tradedSince_of_ok (hkeeps call hmem)) hstart
    exact reverts_of_tradedSince htraded hearly

/-- An exchange that swaps every token for every other one at par. -/
def parExchanges : Exchanges Unit where
  registry _ _ := 6
  weth := 11
  execute order _ :=
    let quantity :=
      if order.isSendTokenFixed = true then order.sendQuantity
      else order.floatingQuantityLimit
    .ok ((), ⟨quantity, quantity⟩)

/-- One share of one unit of a component and of a hundred of WETH; the target of the
component is five units. -/
def indexWorld : World Unit where
  controller := { Controller.deploy 1 2 with
    isSet := fun setToken => setToken == 9
    isModule := fun module => module == 5 }
  setTokenAddress := 9
  setToken := { SetToken.deploy [10, 11] [1, 100] [5] 7 with
    modules := [5]
    moduleStates := fun module => if module = 5 then .INITIALIZED else .NONE
    totalSupply := 1000000000000000000 }
  balances := fun token holder =>
    if holder = 9 then (if token = 10 then 1 else if token = 11 then 100 else 0) else 0
  timestamp := 50
  protocols := ()
  executionInfo := fun component =>
    if component = 10 then ⟨5, 3, 20, 30, "par", []⟩ else ⟨50, 0, 0, 0, "", []⟩
  permissionInfo := ⟨true, [], fun _ => false⟩
  rebalanceInfo := ⟨1000000000000000000, 0, [10, 11]⟩

theorem exact_parExchanges (order : TradeOrder) (protocols after : Unit)
    (exchanged : Exchanged)
    (hexecuted : parExchanges.execute order protocols = .ok (after, exchanged)) :
    Exact order exchanged := by
  simp only [parExchanges, Except.ok.injEq, Prod.mk.injEq] at hexecuted
  obtain ⟨-, rfl⟩ := hexecuted
  exact ⟨fun hsend => if_pos hsend, fun hreceive => if_neg (by rw [hreceive]; decide)⟩

/-- Three of the four missing units are bought, and the next trade has to wait. -/
theorem trade_towardsTarget_three : ∃ next event,
    trade parExchanges 5 indexWorld ⟨3, 3⟩ 10 90 = .ok (next, event) ∧
      TowardsTarget 10 indexWorld next event ∧
      ∃ reason, trade parExchanges 5 next ⟨3, 3⟩ 10 90 = .error reason := by
  obtain ⟨⟨next, event⟩, hcall, hquantity, hearly⟩ := returns_iff.mp (by decide +kernel :
    Returns (trade parExchanges 5 indexWorld ⟨3, 3⟩ 10 90) fun result =>
      0 < result.2.componentQuantity 10 ∧
        result.1.timestamp < 50 + (result.1.executionInfo 10).coolOffPeriod)
  obtain ⟨htowards, hrests⟩ := trade_towardsTarget (by decide) (by decide) (by decide)
    (by decide) (by decide)
    (fun tradeInfo after exchanged _ => exact_parExchanges tradeInfo.order () after exchanged)
    hcall hquantity
  exact ⟨next, event, hcall, htowards, hrests [] (by simp) hearly ⟨3, 3⟩ 90⟩

/-- The manager takes the module off the SetToken, puts it back and starts the same rebalance. -/
def reinitialization : List (IndexCall 5) :=
  [.removeModule 7, .addModule 7, .initializeModule 7,
    .startRebalance 7 ⟨[], [], [5, 50], 1000000000000000000⟩, .setAnyoneTrade 7 true]

/-- To initialize the module forgets the time of the last trade but not the cool-off period, so
that the component is traded twice in one second. -/
theorem trade_twice_after_reinitialization : ∃ next event again,
    trade parExchanges 5 indexWorld ⟨3, 3⟩ 10 90 = .ok (next, event) ∧
      0 < event.componentQuantity 10 ∧
      (run (perform parExchanges 5) reinitialization next).timestamp < indexWorld.timestamp +
        ((run (perform parExchanges 5) reinitialization next).executionInfo 10).coolOffPeriod ∧
      trade parExchanges 5 (run (perform parExchanges 5) reinitialization next) ⟨3, 3⟩ 10 90 =
        .ok again := by
  obtain ⟨⟨next, event⟩, hcall, hquantity, hearly, htrade⟩ := returns_iff.mp (by decide +kernel :
    Returns (trade parExchanges 5 indexWorld ⟨3, 3⟩ 10 90) fun result =>
      0 < result.2.componentQuantity 10 ∧
        (run (perform parExchanges 5) reinitialization result.1).timestamp <
          indexWorld.timestamp + ((run (perform parExchanges 5) reinitialization
            result.1).executionInfo 10).coolOffPeriod ∧
        Returns (trade parExchanges 5 (run (perform parExchanges 5) reinitialization result.1)
          ⟨3, 3⟩ 10 90) fun result => result.2.componentQuantity 10 = 1)
  obtain ⟨again, hagain, -⟩ := returns_iff.mp htrade
  exact ⟨next, event, again, hcall, hquantity, hearly, hagain⟩

end SetProtocol.GeneralIndexModule
