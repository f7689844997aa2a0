import SetProtocol.Modules.AuctionRebalanceBids
import SetProtocol.Modules.GeneralIndexTrades

/-!
# What a rebalance may spend

Tokens that were sent to a SetToken beyond what its default position tracks are not to be
traded away.  The update of the position refuses to lose any of them, but it is skipped for a
token of which nothing is left; only there, and only where WETH or the quote asset pays, can
a rebalance spend them.
-/

namespace SetProtocol

open Transaction PreciseUnitMath

/-- What `getDefaultTrackedBalance` says of a token. -/
def trackedBalance (chain : Chain) (token : Address) : ℕ :=
  Allocation.held preciseUnit chain.setToken.totalSupply (chain.setToken.defaultRealUnit token)

/-- No more than the tracked balance has left, and what is held beyond it has not shrunk. -/
structure SpendsTracked (token : Address) (before after : Chain) : Prop where
  covered : before.heldBalance token ≤ after.heldBalance token + trackedBalance before token
  untracked : (before.heldBalance token : ℤ) - trackedBalance before token ≤
    after.heldBalance token - trackedBalance after token

/-- The update keeps to the tracked balance, except when it finds nothing left. -/
theorem spendsTracked_iff {before after : Chain} {token : Address}
    (hmultiplier : 0 < after.setToken.positionMultiplier)
    (hsupply : after.setToken.totalSupply = before.setToken.totalSupply)
    (hsent : Position.SentUpdate before.setToken after.setToken token
      before.setToken.totalSupply (before.heldBalance token) (after.heldBalance token)) :
    SpendsTracked token before after ↔
      ¬(after.heldBalance token = 0 ∧
        trackedBalance before token < before.heldBalance token) := by
  rcases Nat.eq_zero_or_pos (after.heldBalance token) with hempty | hleft
  · have hnone : trackedBalance after token = 0 := by
      obtain ⟨-, hunit, -⟩ := (hsent.emptied hempty).reads hmultiplier
      have hzero : after.setToken.defaultRealUnit token = 0 :=
        Nat.le_zero.mp (hunit ▸ Rounding.thereAndBack_le preciseUnit_pos _ 0)
      rw [trackedBalance, hzero, Allocation.held, Nat.mul_zero, Nat.zero_div]
    constructor
    · rintro ⟨hcovered, -⟩ ⟨-, hmore⟩
      omega
    · intro hwithin
      have hcovered : before.heldBalance token ≤ trackedBalance before token :=
        not_lt.mp fun hmore => hwithin ⟨hempty, hmore⟩
      exact ⟨by omega, by omega⟩
  · refine iff_of_true ?_ fun hdrained => hleft.ne' hdrained.1
    obtain ⟨htracked, hkept⟩ := hsent.checked hleft
    change trackedBalance before token ≤ before.heldBalance token at htracked
    change before.heldBalance token - trackedBalance before token ≤
      after.heldBalance token at hkept
    obtain ⟨-, hunit, -⟩ := (hsent.stores htracked).reads hmultiplier
    have hless : trackedBalance after token ≤
        trackedBalance before token + after.heldBalance token - before.heldBalance token := by
      rw [trackedBalance, hsupply, hunit]
      exact (Allocation.held_mono (Rounding.thereAndBack_le preciseUnit_pos _ _)).trans
        (Allocation.held_unitFor_le _ _ _)
    exact ⟨by omega, by omega⟩

/-! ## Bids -/

namespace AuctionRebalanceModule

variable {adapters : Adapters} {module sender : Address} {world next : World}
variable {order : BidOrder}

def sentToken (world : World) (order : BidOrder) : Address :=
  if order.isSellAuction = true then order.component else world.rebalanceInfo.quoteAsset

/-- The price that the adapter of the component asks for the filled quantity. -/
def quotedPrice (adapters : Adapters) (module : Address) (world : World)
    (order : BidOrder) : Outcome ℕ := do
  let params := world.executionInfo order.component
  let timeElapsed ← SafeMath.sub world.timestamp world.rebalanceInfo.rebalanceStartTime
  adapters.getPrice (adapters.getIntegrationAdapter module params.priceAdapterName)
    world.setTokenAddress order.component (filledQuantity module world order) timeElapsed
    world.rebalanceInfo.rebalanceDuration params.priceAdapterConfigData

/-- A purchase for exactly the quote asset that is held, of which not all is tracked. -/
def DrainsQuoteAsset (adapters : Adapters) (module : Address) (world : World)
    (order : BidOrder) : Prop :=
  order.isSellAuction = false ∧
    trackedBalance world.toChain world.rebalanceInfo.quoteAsset <
      world.heldBalance world.rebalanceInfo.quoteAsset ∧
    ∃ price, quotedPrice adapters module world order = .ok price ∧
      filledQuantity module world order * price / preciseUnit =
        world.heldBalance world.rebalanceInfo.quoteAsset

theorem quantitySent_of_createBidInfo {bidInfo : BidInfo}
    (hcall : createBidInfo adapters module world order.component order.componentAmount
      order.quoteAssetLimit order.isSellAuction = .ok bidInfo) :
    bidInfo.sendToken = sentToken world order ∧
      ∃ price, quotedPrice adapters module world order = .ok price ∧
        (order.isSellAuction = false → bidInfo.quantitySentBySet =
          filledQuantity module world order * price / preciseUnit) := by
  have hfilled := hcall
  simp only [createBidInfo, getAndValidateAdapter, bind_eq_ok, require_eq_ok,
    pure_eq_ok] at hfilled
  obtain ⟨_, ⟨_, -, rfl⟩, ⟨isSell, quantity⟩, hsize, _, rfl, filled, hfill, elapsed, helapsed,
    price, hprice, quoted, hquoted, _, -, rfl⟩ := hfilled
  obtain ⟨-, -, rfl⟩ := calculateAuctionSizeAndDirection_eq_ok hsize
  have hquantity : filled = filledQuantity module world order := by
    unfold fillQuantity at hfill
    unfold filledQuantity
    split at hfill
    · rename_i hall
      rw [if_pos hall]
      exact (pure_eq_ok.mp hfill).symm
    · rename_i hpart
      simp only [bind_eq_ok, pure_eq_ok] at hfill
      obtain ⟨_, -, rfl⟩ := hfill
      exact (if_neg hpart).symm
  subst hquantity
  refine ⟨rfl, price, ?_, fun hbuy => ?_⟩
  · rw [quotedPrice, helapsed, ok_bind]
    exact hprice
  · rw [calculateQuoteAssetQuantity, hbuy, if_neg Bool.false_ne_true, preciseMul_eq_ok] at hquoted
    simp only [hbuy, Bool.false_eq_true, if_false]
    exact hquoted.2.symm

/-- What leaves the SetToken in a bid, and what is stored of it. -/
theorem bid_sent (hcall : bid adapters module world sender order = .ok next) :
    next.setToken.positionMultiplier = world.setToken.positionMultiplier ∧
      next.setToken.totalSupply = world.setToken.totalSupply ∧
      Position.SentUpdate world.setToken next.setToken (sentToken world order)
        world.setToken.totalSupply (world.heldBalance (sentToken world order))
        (next.heldBalance (sentToken world order)) ∧
      ∃ bidInfo, createBidInfo adapters module world order.component order.componentAmount
          order.quoteAssetLimit order.isSellAuction = .ok bidInfo ∧
        next.heldBalance (sentToken world order) + bidInfo.quantitySentBySet =
          world.heldBalance (sentToken world order) := by
  obtain ⟨hother, -, bidInfo, executed, charged, updated, hbidInfo, hexecuted, hcharged,
    hupdated, rfl⟩ := bid_eq_ok hcall
  have hrecords := records_of_createBidInfo hbidInfo
  obtain ⟨hsend, -⟩ := quantitySent_of_createBidInfo hbidInfo
  have hne : bidInfo.sendToken ≠ bidInfo.receiveToken := by
    cases hdirection : order.isSellAuction with
    | true =>
        obtain ⟨hsendToken, hreceiveToken, -⟩ := hrecords.sell hdirection
        rw [hsendToken, hreceiveToken]
        exact hother
    | false =>
        obtain ⟨hreceiveToken, hsendToken, -⟩ := hrecords.buy hdirection
        rw [hsendToken, hreceiveToken]
        exact hother.symm
  have hsettles := settles_of_execution hne hrecords.received hexecuted hcharged
  obtain ⟨sent, received, oldSent, newSent, oldReceived, newReceived, hsent, hreceived,
    rfl⟩ := updatePositionState_eq_ok hupdated
  obtain ⟨hsame, -, hsentStored, -⟩ := Position.storesUnit_of_exchange hne hsent hreceived
  obtain ⟨-, -, hsentEdit⟩ := Position.calculateAndEditDefaultPosition_eq_ok.mp hsent
  obtain ⟨-, -, hreceivedEdit⟩ := Position.calculateAndEditDefaultPosition_eq_ok.mp hreceived
  have hupdate := Position.sentUpdate_of_exchange hsent hsentStored
  rw [hsettles.setToken, hrecords.supply, hrecords.sent, hsend] at hupdate
  have haffordable := hsettles.affordable
  have hlowered := hsettles.sent
  rw [hsend] at haffordable hlowered
  refine ⟨?_, ?_, hupdate, bidInfo, hbidInfo, ?_⟩
  · rw [← hsettles.setToken]
    exact hsame
  · rw [← hsettles.setToken]
    exact (Position.totalSupply_of_edit hreceivedEdit).trans
      (Position.totalSupply_of_edit hsentEdit)
  · change charged.heldBalance (sentToken world order) + _ = _
    omega

/-- A bid spends tracked tokens only, unless it drains the quote asset. -/
theorem bid_spendsTracked_iff (hmultiplier : 0 < world.setToken.positionMultiplier)
    (hcall : bid adapters module world sender order = .ok next) :
    SpendsTracked (sentToken world order) world.toChain next.toChain ↔
      ¬DrainsQuoteAsset adapters module world order := by
  obtain ⟨hsame, hsupply, hupdate, bidInfo, hbidInfo, hpaid⟩ := bid_sent hcall
  obtain ⟨hsend, price, hprice, hquantity⟩ := quantitySent_of_createBidInfo hbidInfo
  rw [spendsTracked_iff (hsame ▸ hmultiplier) hsupply hupdate, not_iff_not]
  constructor
  · rintro ⟨hempty, hmore⟩
    change next.heldBalance (sentToken world order) = 0 at hempty
    rw [hempty, Nat.zero_add] at hpaid
    have hbuy : order.isSellAuction = false := by
      rw [← Bool.not_eq_true]
      intro hsell
      have hrecords := records_of_createBidInfo hbidInfo
      have hsize := hrecords.size
      rw [auctionQuantity, if_pos (hrecords.direction.mp hsell),
        ← (hrecords.sell hsell).2.2, hpaid] at hsize
      rw [sentToken, if_pos hsell] at hmore hsize
      change currentNotional world order.component < _ at hmore
      omega
    rw [hquantity hbuy] at hpaid
    rw [sentToken, if_neg (by rw [hbuy]; exact Bool.false_ne_true)] at hmore hpaid
    exact ⟨hbuy, hmore, price, hprice, hpaid⟩
  · rintro ⟨hbuy, hmore, other, hother, hall⟩
    obtain rfl : price = other := Except.ok.inj (hprice.symm.trans hother)
    rw [hquantity hbuy, hall] at hpaid
    have hquote : sentToken world order = world.rebalanceInfo.quoteAsset := by
      rw [sentToken, if_neg (by rw [hbuy]; exact Bool.false_ne_true)]
    rw [hquote] at hpaid ⊢
    exact ⟨by omega, hmore⟩

end AuctionRebalanceModule

/-! ## Trades -/

namespace GeneralIndexModule

variable {P : Type} {exchanges : Exchanges P} {module component : Address} {caller : Caller}
variable {world next : World P} {event : TradeExecuted} {tradeInfo : TradeInfo}
variable {ethQuantityLimit minComponentReceived : ℕ}

/-- What a purchase of a component asks the exchange for. -/
def purchaseOrder (exchanges : Exchanges P) (module : Address) (world : World P)
    (component : Address) (ethQuantityLimit : ℕ) : TradeOrder where
  exchangeAdapter := exchanges.registry module (world.executionInfo component).exchangeName
  sendToken := exchanges.weth
  receiveToken := component
  isSendTokenFixed := false
  sendQuantity := min ethQuantityLimit (world.heldBalance exchanges.weth)
  floatingQuantityLimit := tradeSize module world component
  exchangeData := (world.executionInfo component).exchangeData

/-- A purchase for which the exchange takes all WETH that is held, of which not all is
tracked. -/
def DrainsWETH (exchanges : Exchanges P) (module : Address) (world : World P)
    (component : Address) (ethQuantityLimit : ℕ) : Prop :=
  currentNotional world component ≤ targetNotional world component ∧
    trackedBalance world.toChain exchanges.weth < world.heldBalance exchanges.weth ∧
    ∃ after exchanged,
      exchanges.execute (purchaseOrder exchanges module world component ethQuantityLimit)
        world.protocols = .ok (after, exchanged) ∧
      exchanged.sent = world.heldBalance exchanges.weth

theorem order_of_purchase
    (hcall : createTradeInfo exchanges module world component ethQuantityLimit =
      .ok tradeInfo)
    (hbuy : currentNotional world component ≤ targetNotional world component) :
    tradeInfo.order = purchaseOrder exchanges module world component ethQuantityLimit := by
  simp only [createTradeInfo, getDefaultTradeInfo, getAndValidateAdapter, if_true, bind_eq_ok,
    require_eq_ok, pure_eq_ok] at hcall
  obtain ⟨_, ⟨_, ⟨_, -, rfl⟩, ⟨isSend, quantity⟩, hsize, rfl⟩, hinfo⟩ := hcall
  obtain ⟨-, hdirection, rfl⟩ := calculateTradeSizeAndDirection_eq_ok hsize
  cases isSend with
  | true => exact absurd (hdirection.mp rfl) hbuy.not_gt
  | false =>
      simp only [Bool.false_eq_true, if_false, pure_eq_ok] at hinfo
      subst hinfo
      rfl

/-- A trade spends tracked tokens only, unless it drains WETH. -/
theorem trade_spendsTracked_iff (hmultiplier : 0 < world.setToken.positionMultiplier)
    (hcall : trade exchanges module world caller component ethQuantityLimit =
      .ok (next, event)) :
    SpendsTracked event.sellComponent world.toChain next.toChain ↔
      ¬DrainsWETH exchanges module world component ethQuantityLimit := by
  obtain ⟨-, tradeInfo, netSent, netReceived, fee, hinfo, hopened, hsized, hsettlement,
    rfl⟩ := trade_eq_ok hcall
  have hsame := hsettlement.repositioned.positionMultiplier
  have hpaid := hsettlement.heldSent
  change SpendsTracked tradeInfo.sendToken world.toChain next.toChain ↔ _
  rw [spendsTracked_iff (hsame ▸ hmultiplier) hsettlement.repositioned.totalSupply
    hsettlement.sent, not_iff_not]
  obtain ⟨protocols, hexecutes⟩ := hsettlement.executes
  constructor
  · rintro ⟨hempty, hmore⟩
    have hbuy : ¬targetNotional world component < currentNotional world component := by
      intro hsell
      obtain ⟨hsend, -, hsize⟩ := hsized.sell (hsized.direction.mpr hsell)
      have hless := hsettlement.sent_le
      rw [hsize, tradeSize, if_pos hsell, le_min_iff] at hless
      rw [hsend] at hmore hempty hpaid
      change currentNotional world component < _ at hmore
      omega
    have hfixed : tradeInfo.isSendTokenFixed = false := by
      rw [← Bool.not_eq_true, hsized.direction]
      exact hbuy
    rw [order_of_purchase hinfo (not_lt.mp hbuy)] at hexecutes
    rw [(hsized.buy hfixed).1] at hmore hempty hpaid
    have hall : netSent = world.heldBalance exchanges.weth := by omega
    exact ⟨not_lt.mp hbuy, hmore, _, _, hexecutes, hall⟩
  · rintro ⟨hbuy, hmore, after, exchanged, houtcome, hall⟩
    rw [order_of_purchase hinfo hbuy] at hexecutes
    have hequal := Except.ok.inj (hexecutes.symm.trans houtcome)
    have hsent : netSent = exchanged.sent :=
      congrArg (fun result : P × Exchanged => result.2.sent) hequal
    have hfixed : tradeInfo.isSendTokenFixed = false := by
      rw [← Bool.not_eq_true, hsized.direction]
      exact hbuy.not_gt
    rw [(hsized.buy hfixed).1] at hpaid ⊢
    exact ⟨by omega, hmore⟩

/-- The remaining WETH is counted from what is tracked. -/
theorem tradeRemainingWETH_spendsTracked
    (hmultiplier : 0 < world.setToken.positionMultiplier)
    (hcall : tradeRemainingWETH exchanges module world caller component
      minComponentReceived = .ok (next, event)) :
    SpendsTracked event.sellComponent world.toChain next.toChain := by
  obtain ⟨-, -, tradeInfo, netSent, netReceived, fee, hopened, hsend, hle, hsize,
    hsettlement, rfl⟩ := tradeRemainingWETH_eq_ok hcall
  have hsame := hsettlement.repositioned.positionMultiplier
  have hpaid := hsettlement.heldSent
  have hless := hsettlement.sent_le
  change SpendsTracked tradeInfo.sendToken world.toChain next.toChain
  rw [spendsTracked_iff (hsame ▸ hmultiplier) hsettlement.repositioned.totalSupply
    hsettlement.sent]
  rintro ⟨hempty, hmore⟩
  rw [hsize] at hless
  rw [hsend] at hmore hempty hpaid
  change currentNotional world exchanges.weth < _ at hmore
  omega

end GeneralIndexModule

/-! ## All rebalancing calls -/

/-- A call of one of the modules spends no more than what is tracked of the token it sends,
unless it pays for a component with all that is held of WETH or of the quote asset while not
all of that is tracked. -/
theorem rebalancing_spendsTracked_iff {P : Type} :
    (∀ (adapters : AuctionRebalanceModule.Adapters) (module sender : Address)
      (world next : AuctionRebalanceModule.World) (order : AuctionRebalanceModule.BidOrder),
      0 < world.setToken.positionMultiplier →
      AuctionRebalanceModule.bid adapters module world sender order = .ok next →
        (SpendsTracked (AuctionRebalanceModule.sentToken world order) world.toChain
            next.toChain ↔
          ¬AuctionRebalanceModule.DrainsQuoteAsset adapters module world order)) ∧
    (∀ (exchanges : GeneralIndexModule.Exchanges P) (module component : Address)
      (world next : GeneralIndexModule.World P) (caller : GeneralIndexModule.Caller)
      (ethQuantityLimit : ℕ) (event : GeneralIndexModule.TradeExecuted),
      0 < world.setToken.positionMultiplier →
      GeneralIndexModule.trade exchanges module world caller component ethQuantityLimit =
          .ok (next, event) →
        (SpendsTracked event.sellComponent world.toChain next.toChain ↔
          ¬GeneralIndexModule.DrainsWETH exchanges module world component
            ethQuantityLimit)) ∧
    (∀ (exchanges : GeneralIndexModule.Exchanges P) (module component : Address)
      (world next : GeneralIndexModule.World P) (caller : GeneralIndexModule.Caller)
      (minComponentReceived : ℕ) (event : GeneralIndexModule.TradeExecuted),
      0 < world.setToken.positionMultiplier →
      GeneralIndexModule.tradeRemainingWETH exchanges module world caller component
          minComponentReceived = .ok (next, event) →
        SpendsTracked event.sellComponent world.toChain next.toChain) :=
  ⟨fun _ _ _ _ _ _ hmultiplier hcall =>
      AuctionRebalanceModule.bid_spendsTracked_iff hmultiplier hcall,
    fun _ _ _ _ _ _ _ _ hmultiplier hcall =>
      GeneralIndexModule.trade_spendsTracked_iff hmultiplier hcall,
    fun _ _ _ _ _ _ _ _ hmultiplier hcall =>
      GeneralIndexModule.tradeRemainingWETH_spendsTracked hmultiplier hcall⟩

/-- One share of one unit of a component and of a hundred of the quote asset, of which the
SetToken holds fifty more. -/
def airdroppedWorld : AuctionRebalanceModule.World where
  controller := { Controller.deploy 1 2 with
    isSet := fun setToken => setToken == 9
    isModule := fun module => module == 5 }
  setTokenAddress := 9
  setToken := { SetToken.deploy [10, 11] [1, 100] [5] 7 with
    moduleStates := fun module => if module = 5 then .INITIALIZED else .NONE
    totalSupply := 1000000000000000000 }
  balances := fun token holder =>
    if token = 10 then (if holder = 9 then 1 else 1000)
    else if token = 11 ∧ holder = 9 then 150 else 0
  timestamp := 1
  executionInfo := fun component =>
    if component = 10 then ⟨5, "constant", []⟩ else ⟨0, "", []⟩
  permissionInfo := ⟨true, [], fun _ => false⟩
  rebalanceInfo := ⟨11, 0, 100, 1000000000000000000, 0, [10, 11]⟩

/-- Thirty of the quote asset for one of the component. -/
def dearAdapters : AuctionRebalanceModule.Adapters where
  getIntegrationAdapter _ _ := 6
  getPrice _ _ _ _ _ _ _ := .ok 30000000000000000000
  isPriceAdapterConfigDataValid _ _ := .ok true

/-- A purchase of three pays ninety. -/
theorem rebalancing_spendsTracked_purchase : ∃ next,
    AuctionRebalanceModule.bid dearAdapters 5 airdroppedWorld 3 ⟨10, 11, 3, 0, false⟩ =
        .ok next ∧
      (SpendsTracked 11 airdroppedWorld.toChain next.toChain ↔
        ¬AuctionRebalanceModule.DrainsQuoteAsset dearAdapters 5 airdroppedWorld
          ⟨10, 11, 3, 0, false⟩) := by
  obtain ⟨next, hcall, -⟩ := returns_iff.mp (by decide +kernel :
    Returns (AuctionRebalanceModule.bid dearAdapters 5 airdroppedWorld 3
      ⟨10, 11, 3, 0, false⟩) fun _ => True)
  exact ⟨next, hcall, (rebalancing_spendsTracked_iff (P := Unit)).1 _ _ _ _ _ _ (by decide)
    hcall⟩

/-- At a price of fifty, three of the component cost all hundred and fifty. -/
theorem bid_spends_untracked : ∃ next,
    AuctionRebalanceModule.bid
        { dearAdapters with getPrice := fun _ _ _ _ _ _ _ => .ok 50000000000000000000 } 5
        airdroppedWorld 3 ⟨10, 11, 3, 0, false⟩ = .ok next ∧
      trackedBalance airdroppedWorld.toChain 11 = 100 ∧
      airdroppedWorld.heldBalance 11 = 150 ∧ next.heldBalance 11 = 0 ∧
      ¬SpendsTracked 11 airdroppedWorld.toChain next.toChain := by
  obtain ⟨next, hcall, hempty⟩ := returns_iff.mp (by decide +kernel :
    Returns (AuctionRebalanceModule.bid
      { dearAdapters with getPrice := fun _ _ _ _ _ _ _ => .ok 50000000000000000000 } 5
      airdroppedWorld 3 ⟨10, 11, 3, 0, false⟩) fun next => next.heldBalance 11 = 0)
  have htracked : trackedBalance airdroppedWorld.toChain 11 = 100 := by decide
  have hheld : airdroppedWorld.heldBalance 11 = 150 := rfl
  refine ⟨next, hcall, htracked, hheld, hempty, fun hspends => ?_⟩
  have hcovered := hspends.covered
  rw [htracked, hheld, hempty] at hcovered
  omega

end SetProtocol
