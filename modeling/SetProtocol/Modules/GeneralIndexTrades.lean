import SetProtocol.Core.PositionCredit
import SetProtocol.Core.RebalanceTargets
import SetProtocol.Library.Allocation
import SetProtocol.Modules.GeneralIndexModule

/-!
# What a trade does

Both kinds of trades run through the same steps: the exchange pulls and pays, the protocol
takes its fee of what came in, and both default positions are recomputed.  The size of a
trade comes from notional amounts, of which the current one rounds down and the target one
rounds up.
-/

namespace SetProtocol.GeneralIndexModule

open Transaction PreciseUnitMath

variable {P : Type} {exchanges : Exchanges P} {module component : Address} {caller : Caller}
variable {world next traded : World P} {charged : Chain} {tradeInfo : TradeInfo}
variable {fee netSent netReceived : ℕ}

/-- Target unit under the current multiplier. -/
def normalizedTargetUnit (world : World P) (component : Address) : ℕ :=
  (world.executionInfo component).targetUnit * world.setToken.positionMultiplier.toNat /
    world.rebalanceInfo.positionMultiplier

/-- What the default position holds for all shares, rounded down. -/
def currentNotional (world : World P) (component : Address) : ℕ :=
  Allocation.held preciseUnit world.setToken.totalSupply
    (world.setToken.defaultRealUnit component)

/-- What the target asks for all shares, rounded up. -/
def targetNotional (world : World P) (component : Address) : ℕ :=
  Allocation.wanted preciseUnit world.setToken.totalSupply
    (normalizedTargetUnit world component)

def feeRate (module : Address) (world : World P) : ℕ :=
  world.controller.getModuleFee module generalIndexModuleProtocolFeeIndex

/-- The quantity of the component that a trade asks for. -/
def tradeSize (module : Address) (world : World P) (component : Address) : ℕ :=
  min (world.executionInfo component).maxSize (
    if targetNotional world component < currentNotional world component then
      currentNotional world component - targetNotional world component
    else
      (targetNotional world component - currentNotional world component) * preciseUnit /
        (preciseUnit - feeRate module world))

/-! ## What a trade computes -/

theorem normalizedTargetUnit_of_ok {unit : ℕ}
    (hread : getNormalizedTargetUnit world component = .ok unit) :
    normalizedTargetUnit world component = unit :=
  RebalanceTargets.unit_of_normalize hread

theorem defaultRealUnit_of_read {unit : ℕ}
    (hread : getDefaultPositionRealUnit world component = .ok unit) :
    world.setToken.defaultRealUnit component = unit := by
  simp only [getDefaultPositionRealUnit, bind_eq_ok] at hread
  obtain ⟨_, hunit, hcast⟩ := hread
  exact SetToken.defaultRealUnit_of_ok hunit hcast

theorem getUnitsAndNotionalAmounts_eq_ok {unit target current wanted : ℕ}
    (hcall : getUnitsAndNotionalAmounts world component world.setToken.totalSupply =
      .ok (unit, target, current, wanted)) :
    unit = world.setToken.defaultRealUnit component ∧
      target = normalizedTargetUnit world component ∧
      current = currentNotional world component ∧ wanted = targetNotional world component := by
  simp only [getUnitsAndNotionalAmounts, Position.getDefaultTotalNotional, bind_eq_ok,
    preciseMul_eq_ok, preciseMulCeil_eq_ok, pure_eq_ok, Prod.mk.injEq] at hcall
  obtain ⟨_, hunit, _, htarget, _, ⟨-, hcurrent⟩, _, ⟨-, hwanted⟩, rfl, rfl, rfl, rfl⟩ := hcall
  obtain rfl := defaultRealUnit_of_read hunit
  obtain rfl := normalizedTargetUnit_of_ok htarget
  exact ⟨rfl, rfl, hcurrent.symm, hwanted.symm⟩

theorem calculateTradeSizeAndDirection_eq_ok {isSend : Bool} {quantity : ℕ}
    (hcall : calculateTradeSizeAndDirection module world component
      world.setToken.totalSupply = .ok (isSend, quantity)) :
    world.setToken.defaultRealUnit component ≠ normalizedTargetUnit world component ∧
      (isSend = true ↔ targetNotional world component < currentNotional world component) ∧
      quantity = tradeSize module world component := by
  simp only [calculateTradeSizeAndDirection, bind_eq_ok, require_eq_ok] at hcall
  obtain ⟨⟨unit, target, current, wanted⟩, hamounts, _, hne, hsize⟩ := hcall
  obtain ⟨rfl, rfl, rfl, rfl⟩ := getUnitsAndNotionalAmounts_eq_ok hamounts
  refine ⟨hne, ?_⟩
  unfold tradeSize
  split at hsize
  · rename_i hsell
    simp only [bind_eq_ok, SafeMath.sub_eq_ok, pure_eq_ok, Prod.mk.injEq] at hsize
    obtain ⟨_, ⟨-, rfl⟩, rfl, rfl⟩ := hsize
    rw [if_pos hsell]
    exact ⟨iff_of_true rfl hsell, rfl⟩
  · rename_i hbuy
    simp only [bind_eq_ok, SafeMath.sub_eq_ok, preciseDiv_eq_ok, pure_eq_ok,
      Prod.mk.injEq] at hsize
    obtain ⟨_, ⟨-, rfl⟩, _, ⟨-, rfl⟩, _, ⟨-, -, rfl⟩, rfl, rfl⟩ := hsize
    rw [if_neg hbuy]
    exact ⟨iff_of_false Bool.false_ne_true hbuy, rfl⟩

/-- What the trade info records of the world. -/
structure Opened (weth : Address) (world : World P) (component : Address)
    (tradeInfo : TradeInfo) : Prop where
  tokens : tradeInfo.sendToken = component ∧ tradeInfo.receiveToken = weth ∨
    tradeInfo.sendToken = weth ∧ tradeInfo.receiveToken = component
  supply : tradeInfo.setTotalSupply = world.setToken.totalSupply
  sent : tradeInfo.preTradeSendTokenBalance = world.heldBalance tradeInfo.sendToken
  received : tradeInfo.preTradeReceiveTokenBalance = world.heldBalance tradeInfo.receiveToken

theorem Opened.tokens_ne {weth : Address} (hopened : Opened weth world component tradeInfo)
    (hother : component ≠ weth) : tradeInfo.sendToken ≠ tradeInfo.receiveToken := by
  rcases hopened.tokens with ⟨hsend, hreceive⟩ | ⟨hsend, hreceive⟩
  · rw [hsend, hreceive]
    exact hother
  · rw [hsend, hreceive]
    exact hother.symm

/-- What a trade towards the target of the component asks the exchange for. -/
structure Sized (exchanges : Exchanges P) (module : Address) (world : World P)
    (component : Address) (ethQuantityLimit : ℕ) (tradeInfo : TradeInfo) : Prop where
  unmet : world.setToken.defaultRealUnit component ≠ normalizedTargetUnit world component
  direction : tradeInfo.isSendTokenFixed = true ↔
    targetNotional world component < currentNotional world component
  sell : tradeInfo.isSendTokenFixed = true → tradeInfo.sendToken = component ∧
    tradeInfo.receiveToken = exchanges.weth ∧
    tradeInfo.sendQuantity = tradeSize module world component
  buy : tradeInfo.isSendTokenFixed = false → tradeInfo.sendToken = exchanges.weth ∧
    tradeInfo.receiveToken = component ∧
    tradeInfo.sendQuantity = min ethQuantityLimit (world.heldBalance exchanges.weth) ∧
    tradeInfo.floatingQuantityLimit = tradeSize module world component

theorem createTradeInfo_eq_ok {ethQuantityLimit : ℕ}
    (hcall : createTradeInfo exchanges module world component ethQuantityLimit =
      .ok tradeInfo) :
    Opened exchanges.weth world component tradeInfo ∧
      Sized exchanges module world component ethQuantityLimit tradeInfo := by
  simp only [createTradeInfo, getDefaultTradeInfo, if_true, bind_eq_ok, pure_eq_ok] at hcall
  obtain ⟨_, ⟨_, -, ⟨isSend, quantity⟩, hsize, rfl⟩, hinfo⟩ := hcall
  obtain ⟨hunmet, hdirection, rfl⟩ := calculateTradeSizeAndDirection_eq_ok hsize
  cases isSend with
  | true =>
      simp only [if_true, pure_eq_ok] at hinfo
      subst hinfo
      exact ⟨⟨Or.inl ⟨rfl, rfl⟩, rfl, rfl, rfl⟩, hunmet, hdirection,
        fun _ => ⟨rfl, rfl, rfl⟩, fun hbuy => absurd hbuy.symm Bool.false_ne_true⟩
  | false =>
      simp only [Bool.false_eq_true, if_false, pure_eq_ok] at hinfo
      subst hinfo
      exact ⟨⟨Or.inr ⟨rfl, rfl⟩, rfl, rfl, rfl⟩, hunmet, hdirection,
        fun hsell => absurd hsell Bool.false_ne_true, fun _ => ⟨rfl, rfl, rfl, rfl⟩⟩

/-- All WETH above its target is sent, if the rounded amounts leave any. -/
theorem createTradeRemainingInfo_eq_ok {minComponentReceived : ℕ}
    (hcall : createTradeRemainingInfo exchanges module world component
      minComponentReceived = .ok tradeInfo) :
    Opened exchanges.weth world component tradeInfo ∧
      tradeInfo.sendToken = exchanges.weth ∧
      targetNotional world exchanges.weth ≤ currentNotional world exchanges.weth ∧
      tradeInfo.sendQuantity =
        currentNotional world exchanges.weth - targetNotional world exchanges.weth := by
  simp only [createTradeRemainingInfo, getDefaultTradeInfo, Bool.false_eq_true, if_false,
    bind_eq_ok, pure_eq_ok, SafeMath.sub_eq_ok] at hcall
  obtain ⟨_, ⟨_, -, _, hnone, rfl⟩, ⟨unit, target, current, wanted⟩, hamounts, _,
    ⟨hle, rfl⟩, rfl⟩ := hcall
  cases hnone
  obtain ⟨rfl, rfl, rfl, rfl⟩ := getUnitsAndNotionalAmounts_eq_ok hamounts
  exact ⟨⟨Or.inr ⟨rfl, rfl⟩, rfl, rfl, rfl⟩, rfl, hle, rfl⟩

/-! ## What a trade leaves -/

/-- An exchange changes balances only, and those of two tokens. -/
theorem executeTrade_eq_ok (hne : tradeInfo.sendToken ≠ tradeInfo.receiveToken)
    (hcall : executeTrade exchanges module world tradeInfo = .ok traded) :
    ∃ protocols exchanged balances,
      exchanges.execute tradeInfo.order world.protocols = .ok (protocols, exchanged) ∧
      traded = { world with protocols := protocols, balances := balances } ∧
      exchanged.sent ≤ tradeInfo.sendQuantity ∧
      traded.heldBalance tradeInfo.sendToken + exchanged.sent =
        world.heldBalance tradeInfo.sendToken ∧
      traded.heldBalance tradeInfo.receiveToken =
        world.heldBalance tradeInfo.receiveToken + exchanged.received := by
  simp only [executeTrade, bind_eq_ok, require_eq_ok, pure_eq_ok] at hcall
  obtain ⟨_, -, ⟨protocols, exchanged⟩, hexecuted, _, hallowed, _, hfunds, rfl⟩ := hcall
  refine ⟨protocols, exchanged, _, hexecuted, rfl, hallowed, ?_, ?_⟩
  · have hdebited : Ledger.debit (world.balances tradeInfo.sendToken) world.setTokenAddress
        exchanged.sent world.setTokenAddress + exchanged.sent =
          world.balances tradeInfo.sendToken world.setTokenAddress := by
      rw [Ledger.debit_self]
      exact Nat.sub_add_cancel hfunds
    simpa [World.withChain, Chain.heldBalance, Chain.withLedger, hne] using hdebited
  · simp [World.withChain, Chain.heldBalance, Chain.withLedger, hne.symm, Ledger.credit_self]

/-- The fee is taken of what came in. -/
theorem accrueProtocolFee_eq_ok {chain : Chain} {received : ℕ}
    (hne : tradeInfo.sendToken ≠ tradeInfo.receiveToken)
    (hreceived : chain.heldBalance tradeInfo.receiveToken =
      tradeInfo.preTradeReceiveTokenBalance + received)
    (hcall : accrueProtocolFee module chain tradeInfo = .ok (charged, fee)) :
    (∃ balances, charged = { chain with balances := balances }) ∧
      fee = received * chain.controller.getModuleFee module generalIndexModuleProtocolFeeIndex /
        preciseUnit ∧
      charged.heldBalance tradeInfo.sendToken = chain.heldBalance tradeInfo.sendToken ∧
      fee ≤ chain.heldBalance tradeInfo.receiveToken ∧
      charged.heldBalance tradeInfo.receiveToken =
        chain.heldBalance tradeInfo.receiveToken - fee := by
  simp only [accrueProtocolFee, Chain.getModuleFee, Chain.payProtocolFeeFromSetToken_eq,
    bind_eq_ok, SafeMath.sub_eq_ok, preciseMul_eq_ok, hreceived, Nat.add_sub_cancel_left,
    pure_eq_ok, Prod.mk.injEq] at hcall
  obtain ⟨_, ⟨-, rfl⟩, _, ⟨-, rfl⟩, _, hpaid, rfl, rfl⟩ := hcall
  obtain ⟨hfunds, hlowered, hothers⟩ := Chain.heldBalance_of_strictInvokeTransfer hpaid
  exact ⟨Chain.strictInvokeTransfer_frame hpaid, rfl, hothers _ hne, hfunds, hlowered⟩

/-- The exchange and the fee together. -/
theorem balances_of_exchange (hne : tradeInfo.sendToken ≠ tradeInfo.receiveToken)
    (hbefore : tradeInfo.preTradeReceiveTokenBalance =
      world.heldBalance tradeInfo.receiveToken)
    (hexecuted : executeTrade exchanges module world tradeInfo = .ok traded)
    (hcharged : accrueProtocolFee module traded.toChain tradeInfo = .ok (charged, fee)) :
    ∃ protocols exchanged balances,
      exchanges.execute tradeInfo.order world.protocols = .ok (protocols, exchanged) ∧
      traded.withChain charged = { world with protocols := protocols, balances := balances } ∧
      exchanged.sent ≤ tradeInfo.sendQuantity ∧
      fee = exchanged.received * feeRate module world / preciseUnit ∧
      charged.heldBalance tradeInfo.sendToken + exchanged.sent =
        world.heldBalance tradeInfo.sendToken ∧
      charged.heldBalance tradeInfo.receiveToken =
        world.heldBalance tradeInfo.receiveToken + exchanged.received - fee ∧
      fee ≤ world.heldBalance tradeInfo.receiveToken + exchanged.received := by
  obtain ⟨protocols, exchanged, balances, hexecutes, htraded, hallowed, hpaid, hraised⟩ :=
    executeTrade_eq_ok hne hexecuted
  rw [← hbefore] at hraised
  obtain ⟨⟨charges, hframe⟩, hfee, hsentKept, hfunds, hlowered⟩ :=
    accrueProtocolFee_eq_ok hne hraised hcharged
  rw [hraised, hbefore] at hfunds hlowered
  refine ⟨protocols, exchanged, charges, hexecutes, ?_, hallowed, ?_, ?_, hlowered, hfunds⟩
  · rw [hframe, htraded]
    rfl
  · rw [hfee, htraded]
    rfl
  · rw [hsentKept]
    exact hpaid

/-- Positions change, the rest of the SetToken does not. -/
structure Repositioned (before after : Chain) : Prop where
  bookkept : Bookkept before.setToken → Bookkept after.setToken
  positionMultiplier : after.setToken.positionMultiplier = before.setToken.positionMultiplier
  totalSupply : after.setToken.totalSupply = before.setToken.totalSupply
  moduleStates : after.setToken.moduleStates = before.setToken.moduleStates
  timestamp : after.timestamp = before.timestamp

theorem updatePositionStateAndTimestamp_eq_ok
    (hne : tradeInfo.sendToken ≠ tradeInfo.receiveToken)
    (hcall : updatePositionStateAndTimestamp module world tradeInfo component =
      .ok (next, netSent, netReceived)) :
    tradeInfo.preTradeSendTokenBalance = world.heldBalance tradeInfo.sendToken + netSent ∧
      world.heldBalance tradeInfo.receiveToken =
        tradeInfo.preTradeReceiveTokenBalance + netReceived ∧
      (∃ setToken, next = (world.withChain (world.withSetToken setToken)).withExecutionInfo
        component { world.executionInfo component with
          lastTradeTimestamp := world.timestamp }) ∧
      Repositioned world.toChain next.toChain ∧
      Position.SentUpdate world.setToken next.setToken tradeInfo.sendToken
        tradeInfo.setTotalSupply tradeInfo.preTradeSendTokenBalance
        (world.heldBalance tradeInfo.sendToken) ∧
      (Allocation.held preciseUnit tradeInfo.setTotalSupply
          (world.setToken.defaultRealUnit tradeInfo.receiveToken) ≤
            tradeInfo.preTradeReceiveTokenBalance →
        Position.StoresUnit next.setToken tradeInfo.receiveToken
          (Allocation.unitFor preciseUnit tradeInfo.setTotalSupply
            (Allocation.held preciseUnit tradeInfo.setTotalSupply
              (world.setToken.defaultRealUnit tradeInfo.receiveToken) +
                world.heldBalance tradeInfo.receiveToken -
                  tradeInfo.preTradeReceiveTokenBalance))) := by
  simp only [updatePositionStateAndTimestamp, bind_eq_ok, SafeMath.sub_eq_ok, pure_eq_ok,
    Prod.mk.injEq] at hcall
  obtain ⟨⟨sent, oldSent, newSent⟩, hsent, ⟨received, oldReceived, newReceived⟩, hreceived,
    _, ⟨hfell, rfl⟩, _, ⟨hrose, rfl⟩, rfl, rfl, rfl⟩ := hcall
  obtain ⟨hsame, hkept, hsentStored, hreceivedStored⟩ :=
    Position.storesUnit_of_exchange hne hsent hreceived
  obtain ⟨-, -, hsentEdit⟩ := Position.calculateAndEditDefaultPosition_eq_ok.mp hsent
  obtain ⟨-, -, hreceivedEdit⟩ := Position.calculateAndEditDefaultPosition_eq_ok.mp hreceived
  refine ⟨(Nat.add_sub_of_le hfell).symm, (Nat.add_sub_of_le hrose).symm, ⟨received, rfl⟩,
    ?_, Position.sentUpdate_of_exchange hsent hsentStored, fun htracked => ?_⟩
  · obtain ⟨_, _, _, -, -, hsentFrame, -⟩ := Position.editDefaultPosition_eq_ok hsentEdit
    obtain ⟨_, _, _, -, -, hreceivedFrame, -⟩ :=
      Position.editDefaultPosition_eq_ok hreceivedEdit
    refine ⟨fun hbookkept => ?_, hsame, ?_, ?_, rfl⟩
    · exact (hbookkept.editDefaultPosition hsentEdit).editDefaultPosition hreceivedEdit
    · exact (Position.totalSupply_of_edit hreceivedEdit).trans
        (Position.totalSupply_of_edit hsentEdit)
    · change received.moduleStates = world.setToken.moduleStates
      rw [hreceivedFrame, hsentFrame]
      rfl
  · have hbefore : tradeInfo.setTotalSupply *
        sent.defaultRealUnit tradeInfo.receiveToken / preciseUnit ≤
          tradeInfo.preTradeReceiveTokenBalance := by
      rw [hkept]
      exact htracked
    have hrecomputed := Position.recomputedUnit hreceived hbefore
    rw [hrecomputed, hkept] at hreceivedStored
    exact hreceivedStored

/-- What the three steps of a trade leave together. -/
structure Settlement (exchanges : Exchanges P) (module : Address) (world : World P)
    (component : Address) (tradeInfo : TradeInfo) (next : World P)
    (netSent netReceived fee : ℕ) : Prop where
  executes : ∃ protocols, exchanges.execute tradeInfo.order world.protocols =
    .ok (protocols, ⟨netSent, netReceived + fee⟩)
  fee_eq : netReceived = Allocation.net preciseUnit (feeRate module world) (netReceived + fee)
  sent_le : netSent ≤ tradeInfo.sendQuantity
  heldSent : next.heldBalance tradeInfo.sendToken + netSent =
    world.heldBalance tradeInfo.sendToken
  heldReceived : next.heldBalance tradeInfo.receiveToken =
    world.heldBalance tradeInfo.receiveToken + netReceived
  repositioned : Repositioned world.toChain next.toChain
  sent : Position.SentUpdate world.setToken next.setToken tradeInfo.sendToken
    world.setToken.totalSupply (world.heldBalance tradeInfo.sendToken)
    (next.heldBalance tradeInfo.sendToken)
  received : currentNotional world tradeInfo.receiveToken ≤
      world.heldBalance tradeInfo.receiveToken →
    Position.StoresUnit next.setToken tradeInfo.receiveToken
      (Allocation.unitFor preciseUnit world.setToken.totalSupply
        (currentNotional world tradeInfo.receiveToken + netReceived))
  executionInfo : next.executionInfo = Function.update world.executionInfo component
    { world.executionInfo component with lastTradeTimestamp := world.timestamp }
  permissionInfo : next.permissionInfo = world.permissionInfo
  rebalanceInfo : next.rebalanceInfo = world.rebalanceInfo

theorem settlement_of_steps (hopened : Opened exchanges.weth world component tradeInfo)
    (hother : component ≠ exchanges.weth)
    (hexecuted : executeTrade exchanges module world tradeInfo = .ok traded)
    (hcharged : accrueProtocolFee module traded.toChain tradeInfo = .ok (charged, fee))
    (hupdated : updatePositionStateAndTimestamp module (traded.withChain charged) tradeInfo
      component = .ok (next, netSent, netReceived)) :
    Settlement exchanges module world component tradeInfo next netSent netReceived fee := by
  have hne := hopened.tokens_ne hother
  obtain ⟨protocols, exchanged, balances, hexecutes, hbase, hallowed, hfee, hpaid, hraised,
    hfunds⟩ := balances_of_exchange hne hopened.received hexecuted hcharged
  obtain ⟨hfell, hrose, ⟨setToken, hnext⟩, hrepositioned, hsent, hreceived⟩ :=
    updatePositionStateAndTimestamp_eq_ok hne hupdated
  have hsentHeld : next.heldBalance tradeInfo.sendToken =
      charged.heldBalance tradeInfo.sendToken := by
    rw [hnext]
    rfl
  have hreceivedHeld : next.heldBalance tradeInfo.receiveToken =
      charged.heldBalance tradeInfo.receiveToken := by
    rw [hnext]
    rfl
  change tradeInfo.preTradeSendTokenBalance =
    charged.heldBalance tradeInfo.sendToken + netSent at hfell
  change charged.heldBalance tradeInfo.receiveToken = _ at hrose
  rw [hopened.sent] at hfell
  rw [hopened.received] at hrose
  have hnetSent : netSent = exchanged.sent := by omega
  have hnetReceived : exchanged.received = netReceived + fee := by omega
  rw [hopened.supply, hopened.sent] at hsent
  rw [hopened.supply, hopened.received] at hreceived
  have hreceivedNow : (traded.withChain charged).heldBalance tradeInfo.receiveToken =
      world.heldBalance tradeInfo.receiveToken + netReceived := hrose
  rw [hreceivedNow] at hreceived
  have hsentNow : (traded.withChain charged).heldBalance tradeInfo.sendToken =
      next.heldBalance tradeInfo.sendToken := hsentHeld.symm
  rw [hsentNow] at hsent
  rw [hbase] at hnext hrepositioned hsent hreceived
  have hstep : Repositioned world.toChain next.toChain := by
    obtain ⟨hbookkept, hmultiplier, hsupply, hstates, htime⟩ := hrepositioned
    exact ⟨hbookkept, hmultiplier, hsupply, hstates, htime⟩
  refine ⟨⟨protocols, ?_⟩, ?_, ?_, ?_, ?_, hstep, hsent, fun htracked => ?_, ?_, ?_, ?_⟩
  · rw [hexecutes, hnetSent, ← hnetReceived]
  · rw [Allocation.net, ← hnetReceived, ← hfee, hnetReceived]
    omega
  · rw [hnetSent]
    exact hallowed
  · rw [hsentHeld, hnetSent]
    exact hpaid
  · rw [hreceivedHeld]
    exact hrose
  · have hstored := hreceived htracked
    rw [← Nat.add_assoc, Nat.add_right_comm, Nat.add_sub_cancel] at hstored
    exact hstored
  · rw [hnext]
    rfl
  · rw [hnext]
    rfl
  · rw [hnext]
    rfl

/-! ## The calls -/

variable {event : TradeExecuted} {ethQuantityLimit minComponentReceived : ℕ}

/-- What both calls check first. -/
structure MayTrade (weth : Address) (world : World P) (caller : Caller)
    (component : Address) : Prop where
  allowed : isAllowedTrader world caller.sender = true
  other : component ≠ weth
  cooledOff : (world.executionInfo component).lastTradeTimestamp +
    (world.executionInfo component).coolOffPeriod ≤ world.timestamp

theorem trade_eq_ok
    (hcall : trade exchanges module world caller component ethQuantityLimit =
      .ok (next, event)) :
    MayTrade exchanges.weth world caller component ∧
      ∃ tradeInfo netSent netReceived fee,
        createTradeInfo exchanges module world component ethQuantityLimit = .ok tradeInfo ∧
        Opened exchanges.weth world component tradeInfo ∧
        Sized exchanges module world component ethQuantityLimit tradeInfo ∧
        Settlement exchanges module world component tradeInfo next netSent netReceived fee ∧
        event = tradeInfo.executed caller netSent netReceived fee := by
  simp only [trade, validateOnlyAllowedTrader, validateTradeParameters, bind_eq_ok,
    require_eq_ok, SafeMath.add_eq_ok, pure_eq_ok, Prod.mk.injEq] at hcall
  obtain ⟨_, hallowed, _, -, _, ⟨_, hother, _, -, _, ⟨-, rfl⟩, _, hcooledOff, -⟩, tradeInfo,
    hinfo, traded, htraded, ⟨charged, fee⟩, hcharged, ⟨updated, netSent, netReceived⟩,
    hupdated, rfl, rfl⟩ := hcall
  obtain ⟨hopened, hsized⟩ := createTradeInfo_eq_ok hinfo
  exact ⟨⟨hallowed, hother, hcooledOff⟩, tradeInfo, netSent, netReceived, fee, hinfo, hopened,
    hsized, settlement_of_steps hopened hother htraded hcharged hupdated, rfl⟩

theorem tradeRemainingWETH_eq_ok
    (hcall : tradeRemainingWETH exchanges module world caller component
      minComponentReceived = .ok (next, event)) :
    MayTrade exchanges.weth world caller component ∧
      (world.executionInfo exchanges.weth).targetUnit <
        world.setToken.defaultRealUnit exchanges.weth ∧
      ∃ tradeInfo netSent netReceived fee,
        Opened exchanges.weth world component tradeInfo ∧
        tradeInfo.sendToken = exchanges.weth ∧
        targetNotional world exchanges.weth ≤ currentNotional world exchanges.weth ∧
        tradeInfo.sendQuantity =
          currentNotional world exchanges.weth - targetNotional world exchanges.weth ∧
        Settlement exchanges module world component tradeInfo next netSent netReceived fee ∧
        event = tradeInfo.executed caller netSent netReceived fee := by
  simp only [tradeRemainingWETH, tradeExcessWETH, validateWETHAboveTarget,
    validateOnlyAllowedTrader, validateTradeParameters, bind_eq_ok, require_eq_ok,
    SafeMath.add_eq_ok, pure_eq_ok, Prod.mk.injEq] at hcall
  obtain ⟨_, hallowed, _, -, _, -, _, -, _, ⟨wethUnit, hunit, hexcess⟩, _,
    ⟨_, hother, _, -, _, ⟨-, rfl⟩, _, hcooledOff, -⟩, tradeInfo, hinfo, traded, htraded,
    ⟨charged, fee⟩, hcharged, ⟨updated, netSent, netReceived⟩, hupdated, _, -, _, -, _, -, rfl,
    rfl⟩ := hcall
  obtain ⟨hopened, hsend, hle, hquantity⟩ := createTradeRemainingInfo_eq_ok hinfo
  rw [← defaultRealUnit_of_read hunit] at hexcess
  exact ⟨⟨hallowed, hother, hcooledOff⟩, hexcess, tradeInfo, netSent, netReceived, fee,
    hopened, hsend, hle, hquantity,
    settlement_of_steps hopened hother htraded hcharged hupdated, rfl⟩

end SetProtocol.GeneralIndexModule
