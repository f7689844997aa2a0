import SetProtocol.Modules.AuctionRebalanceModule
import SetProtocol.Core.PositionCredit
import SetProtocol.Library.Allocation

/-!
# Bids and targets

The direction and the size of an auction are computed from notional amounts, of
which the current one rounds down and the target one rounds up.  The unit after a
bid is computed from balances and rounded once more, to a virtual unit.  For a
supply of a whole share these roundings stay within one unit; for less they need
not, and the condition under which they do is worked out here.
-/

namespace SetProtocol.AuctionRebalanceModule

open Transaction PreciseUnitMath Rounding

variable {adapters : Adapters} {module sender component : Address}
variable {world next : World} {order : BidOrder}

/-- What the default position holds for all shares, rounded down. -/
def currentNotional (world : World) (component : Address) : ℕ :=
  world.setToken.totalSupply * world.setToken.defaultRealUnit component / preciseUnit

/-- What the target asks for all shares, rounded up. -/
def targetNotional (world : World) (component : Address) : ℕ :=
  world.setToken.totalSupply * normalizedTargetUnit world component ⌈/⌉ preciseUnit

def protocolFee (module : Address) (world : World) : ℕ :=
  world.controller.getModuleFee module auctionModuleProtocolFeeIndex

/-- The quantity that settles the auction. -/
def auctionQuantity (module : Address) (world : World) (component : Address) : ℕ :=
  if targetNotional world component < currentNotional world component then
    currentNotional world component - targetNotional world component
  else
    (targetNotional world component - currentNotional world component) * preciseUnit /
      (preciseUnit - protocolFee module world)

/-- The quantity of the component that a bid asks for. -/
def filledQuantity (module : Address) (world : World) (order : BidOrder) : ℕ :=
  if order.componentAmount = maxUint256 then auctionQuantity module world order.component
  else order.componentAmount

/-- What a buy of a quantity leaves after the protocol's fee. -/
def netQuantity (module : Address) (world : World) (quantity : ℕ) : ℕ :=
  quantity - quantity * protocolFee module world / preciseUnit

/-! ## What a bid computes -/

theorem calculateAuctionSizeAndDirection_eq_ok {isSell : Bool} {quantity : ℕ}
    (hcall : calculateAuctionSizeAndDirection module world component
      world.setToken.totalSupply = .ok (isSell, quantity)) :
    world.setToken.defaultRealUnit component ≠ normalizedTargetUnit world component ∧
      (isSell = true ↔
        targetNotional world component < currentNotional world component) ∧
      quantity = auctionQuantity module world component := by
  simp only [calculateAuctionSizeAndDirection, getUnitsAndNotionalAmounts,
    getDefaultPositionRealUnit, getNormalizedTargetUnit, Position.getDefaultTotalNotional,
    bind_eq_ok, preciseMul_eq_ok, preciseMulCeil_eq_ok, require_eq_ok, pure_eq_ok,
    SafeMath.mul_eq_ok, SafeMath.div_eq_ok] at hcall
  obtain ⟨_, ⟨currentUnit, ⟨unit, hunit, hcast⟩, targetUnit, ⟨multiplier, hmultiplier, _,
    ⟨-, rfl⟩, -, htarget⟩, _, ⟨-, hcurrent⟩, _, ⟨-, htargetNotional⟩, rfl⟩, _, hne,
    hsize⟩ := hcall
  obtain rfl := SetToken.defaultRealUnit_of_ok hunit hcast
  have hnormalized : normalizedTargetUnit world component = targetUnit := by
    rw [SafeCast.toUint256_eq_ok] at hmultiplier
    rw [← htarget, normalizedTargetUnit, hmultiplier, Int.toNat_natCast]
  subst hnormalized hcurrent htargetNotional
  refine ⟨hne, ?_⟩
  unfold auctionQuantity
  split at hsize
  · rename_i hsell
    simp only [bind_eq_ok, SafeMath.sub_eq_ok, pure_eq_ok, Prod.mk.injEq] at hsize
    obtain ⟨_, ⟨-, rfl⟩, rfl, rfl⟩ := hsize
    exact ⟨iff_of_true rfl hsell, (if_pos hsell).symm⟩
  · rename_i hbuy
    simp only [bind_eq_ok, SafeMath.sub_eq_ok, preciseDiv_eq_ok, pure_eq_ok,
      Prod.mk.injEq] at hsize
    obtain ⟨_, ⟨-, rfl⟩, _, ⟨-, rfl⟩, _, ⟨-, -, rfl⟩, rfl, rfl⟩ := hsize
    exact ⟨iff_of_false Bool.false_ne_true hbuy, (if_neg hbuy).symm⟩

/-- What the bid info records of the world and the order. -/
structure Records (module : Address) (world : World) (order : BidOrder)
    (bidInfo : BidInfo) : Prop where
  unmet : world.setToken.defaultRealUnit order.component ≠
    normalizedTargetUnit world order.component
  direction : order.isSellAuction = true ↔
    targetNotional world order.component < currentNotional world order.component
  size : filledQuantity module world order ≤ auctionQuantity module world order.component
  supply : bidInfo.setTotalSupply = world.setToken.totalSupply
  sent : bidInfo.preBidTokenSentBalance = world.heldBalance bidInfo.sendToken
  received : bidInfo.preBidTokenReceivedBalance = world.heldBalance bidInfo.receiveToken
  sell : order.isSellAuction = true → bidInfo.sendToken = order.component ∧
    bidInfo.receiveToken = world.rebalanceInfo.quoteAsset ∧
    bidInfo.quantitySentBySet = filledQuantity module world order
  buy : order.isSellAuction = false → bidInfo.receiveToken = order.component ∧
    bidInfo.sendToken = world.rebalanceInfo.quoteAsset ∧
    bidInfo.quantityReceivedBySet = filledQuantity module world order

theorem records_of_createBidInfo {bidInfo : BidInfo}
    (hcall : createBidInfo adapters module world order.component order.componentAmount
      order.quoteAssetLimit order.isSellAuction = .ok bidInfo) :
    Records module world order bidInfo := by
  simp only [createBidInfo, bind_eq_ok, require_eq_ok, pure_eq_ok] at hcall
  obtain ⟨_, -, ⟨isSell, quantity⟩, hsize, _, rfl, filled, hfilled, _, -, _, -, _, -, _, -,
    rfl⟩ := hcall
  obtain ⟨hunmet, hdirection, rfl⟩ := calculateAuctionSizeAndDirection_eq_ok hsize
  have hquantity : filled = filledQuantity module world order ∧
      filled ≤ auctionQuantity module world order.component := by
    unfold fillQuantity at hfilled
    unfold filledQuantity
    split at hfilled
    · rename_i hall
      rw [pure_eq_ok] at hfilled
      rw [if_pos hall]
      exact ⟨hfilled.symm, hfilled.ge⟩
    · rename_i hpart
      simp only [bind_eq_ok, require_eq_ok, pure_eq_ok] at hfilled
      obtain ⟨_, hfits, rfl⟩ := hfilled
      exact ⟨(if_neg hpart).symm, hfits⟩
  obtain ⟨rfl, hbound⟩ := hquantity
  refine ⟨hunmet, hdirection, hbound, rfl, rfl, rfl, fun hsell => ?_, fun hbuy => ?_⟩
  · simp only [hsell, if_true]
    exact ⟨trivial, trivial, trivial⟩
  · simp only [hbuy, Bool.false_eq_true, if_false]
    exact ⟨trivial, trivial, trivial⟩

/-! ## What a bid leaves -/

/-- The unit after a bid, for what the default position then holds. -/
def unitOf (world : World) (notional : ℕ) : ℕ :=
  thereAndBack preciseUnit world.setToken.positionMultiplier.toNat
    (notional * preciseUnit / world.setToken.totalSupply)

/-- The Set gives up what it sends, and receives what it is paid less the fee. -/
structure Settles (module : Address) (world : World) (bidInfo : BidInfo)
    (charged : Chain) : Prop where
  setToken : charged.setToken = world.setToken
  affordable : bidInfo.quantitySentBySet ≤ world.heldBalance bidInfo.sendToken
  sent : charged.heldBalance bidInfo.sendToken =
    world.heldBalance bidInfo.sendToken - bidInfo.quantitySentBySet
  received : charged.heldBalance bidInfo.receiveToken =
    world.heldBalance bidInfo.receiveToken + bidInfo.quantityReceivedBySet -
      bidInfo.quantityReceivedBySet * protocolFee module world / preciseUnit

theorem settles_of_execution {bidInfo : BidInfo} {executed charged : Chain}
    (hne : bidInfo.sendToken ≠ bidInfo.receiveToken)
    (hbefore : bidInfo.preBidTokenReceivedBalance = world.heldBalance bidInfo.receiveToken)
    (hexecuted : executeBid module world.toChain sender bidInfo = .ok executed)
    (hcharged : accrueProtocolFee module executed bidInfo = .ok charged) :
    Settles module world bidInfo charged := by
  have hframe : charged.setToken = world.setToken ∧
      executed.controller = world.controller := by
    obtain ⟨_, rfl⟩ := executeBid_frame hexecuted
    obtain ⟨_, rfl⟩ := accrueProtocolFee_frame hcharged
    exact ⟨rfl, rfl⟩
  simp only [executeBid, bind_eq_ok] at hexecuted
  obtain ⟨paid, hpaid, hsent⟩ := hexecuted
  obtain ⟨hraised, hpaidOthers⟩ := Chain.heldBalance_of_transferFrom hpaid
  obtain ⟨haffordable, hlowered, hsentOthers⟩ :=
    Chain.heldBalance_of_strictInvokeTransfer hsent
  have hreceived : executed.heldBalance bidInfo.receiveToken =
      world.heldBalance bidInfo.receiveToken + bidInfo.quantityReceivedBySet := by
    rw [hsentOthers _ hne.symm, hraised]
  rw [hpaidOthers _ hne] at haffordable hlowered
  simp only [accrueProtocolFee, Chain.getModuleFee, Chain.payProtocolFeeFromSetToken_eq,
    bind_eq_ok, SafeMath.sub_eq_ok, preciseMul_eq_ok, hreceived, hbefore, hframe.2,
    Nat.add_sub_cancel_left] at hcharged
  obtain ⟨_, ⟨-, rfl⟩, fee, ⟨-, hfee⟩, hpay⟩ := hcharged
  obtain ⟨-, hfeePaid, hothers⟩ := Chain.heldBalance_of_strictInvokeTransfer hpay
  refine ⟨hframe.1, haffordable, (hothers _ hne).trans hlowered, ?_⟩
  rw [hfeePaid, hreceived, ← hfee]
  rfl

/-- Both default positions after the update: what was tracked is stored, corrected by
what came in or went out. -/
theorem updatePositionState_stores {chain reached : Chain} {bidInfo : BidInfo}
    (hne : bidInfo.sendToken ≠ bidInfo.receiveToken)
    (hcall : updatePositionState module chain bidInfo = .ok reached)
    {token : Address} {previousBalance : ℕ}
    (htoken : token = bidInfo.sendToken ∧ previousBalance = bidInfo.preBidTokenSentBalance ∨
      token = bidInfo.receiveToken ∧ previousBalance = bidInfo.preBidTokenReceivedBalance)
    (htracked : bidInfo.setTotalSupply * chain.setToken.defaultRealUnit token /
      preciseUnit ≤ previousBalance) :
    reached.setToken.positionMultiplier = chain.setToken.positionMultiplier ∧
      Position.StoresUnit reached.setToken token
        ((bidInfo.setTotalSupply * chain.setToken.defaultRealUnit token / preciseUnit +
          chain.heldBalance token - previousBalance) * preciseUnit /
            bidInfo.setTotalSupply) := by
  obtain ⟨sent, received, oldSent, newSent, oldReceived, newReceived, hsent, hreceived,
    rfl⟩ := updatePositionState_eq_ok hcall
  obtain ⟨hsame, hkept, hsentStored, hreceivedStored⟩ :=
    Position.storesUnit_of_exchange hne hsent hreceived
  refine ⟨hsame, ?_⟩
  change Position.StoresUnit received token _
  rcases htoken with ⟨rfl, rfl⟩ | ⟨rfl, rfl⟩
  · rw [← Position.recomputedUnit hsent htracked]
    exact hsentStored
  · rw [← hkept] at htracked ⊢
    rw [← Position.recomputedUnit hreceived htracked]
    exact hreceivedStored

theorem fee_le (hfee : protocolFee module world ≤ preciseUnit) (quantity : ℕ) :
    quantity * protocolFee module world / preciseUnit ≤ quantity :=
  Allocation.charge_le hfee quantity

/-- What the default position of the component holds after the bid. -/
def notionalAfter (module : Address) (world : World) (order : BidOrder) : ℕ :=
  if order.isSellAuction = true then
    currentNotional world order.component - filledQuantity module world order
  else
    currentNotional world order.component +
      netQuantity module world (filledQuantity module world order)

/-- A sell takes its quantity out of the default position, a buy adds its quantity
less the fee. -/
theorem bid_stores (hfee : protocolFee module world ≤ preciseUnit)
    (htracked : currentNotional world order.component ≤ world.heldBalance order.component)
    (hcall : bid adapters module world sender order = .ok next) :
    next.setToken.positionMultiplier = world.setToken.positionMultiplier ∧
      Position.StoresUnit next.setToken order.component
        (notionalAfter module world order * preciseUnit / world.setToken.totalSupply) := by
  obtain ⟨hother, -, bidInfo, executed, charged, updated, hbidInfo, hexecuted, hcharged,
    hupdated, rfl⟩ := bid_eq_ok hcall
  have hrecords := records_of_createBidInfo hbidInfo
  change updated.setToken.positionMultiplier = _ ∧
    Position.StoresUnit updated.setToken order.component _
  unfold currentNotional at htracked
  cases hdirection : order.isSellAuction with
  | true =>
      obtain ⟨hsendToken, hreceiveToken, hquantity⟩ := hrecords.sell hdirection
      have hne : bidInfo.sendToken ≠ bidInfo.receiveToken := by
        rw [hsendToken, hreceiveToken]
        exact hother
      have hsettles := settles_of_execution hne hrecords.received hexecuted hcharged
      have haffordable := hsettles.affordable
      have hstored := updatePositionState_stores hne hupdated (Or.inl ⟨rfl, rfl⟩)
        (by rw [hrecords.supply, hrecords.sent, hsettles.setToken, hsendToken]; exact htracked)
      rw [hsettles.sent, hsettles.setToken, hrecords.supply, hrecords.sent, hsendToken,
        hquantity] at hstored
      rw [hsendToken, hquantity] at haffordable
      refine ⟨hstored.1, ?_⟩
      rw [notionalAfter, if_pos hdirection, currentNotional]
      convert hstored.2 using 3
      omega
  | false =>
      obtain ⟨hreceiveToken, hsendToken, hquantity⟩ := hrecords.buy hdirection
      have hne : bidInfo.sendToken ≠ bidInfo.receiveToken := by
        rw [hsendToken, hreceiveToken]
        exact hother.symm
      have hsettles := settles_of_execution hne hrecords.received hexecuted hcharged
      have hless := fee_le hfee (filledQuantity module world order)
      have hstored := updatePositionState_stores hne hupdated (Or.inr ⟨rfl, rfl⟩)
        (by rw [hrecords.supply, hrecords.received, hsettles.setToken, hreceiveToken]
            exact htracked)
      rw [hsettles.received, hsettles.setToken, hrecords.supply, hrecords.received,
        hreceiveToken, hquantity] at hstored
      refine ⟨hstored.1, ?_⟩
      rw [notionalAfter, if_neg (by rw [hdirection]; exact Bool.false_ne_true),
        currentNotional, netQuantity]
      convert hstored.2 using 3
      generalize filledQuantity module world order * protocolFee module world /
        preciseUnit = fee at *
      generalize world.setToken.totalSupply * world.setToken.defaultRealUnit
        order.component / preciseUnit = notional at *
      omega

theorem bid_unit (hmultiplier : 0 < world.setToken.positionMultiplier)
    (hfee : protocolFee module world ≤ preciseUnit)
    (htracked : currentNotional world order.component ≤ world.heldBalance order.component)
    (hcall : bid adapters module world sender order = .ok next) :
    next.setToken.defaultRealUnit order.component =
      unitOf world (notionalAfter module world order) := by
  obtain ⟨hsame, hstored⟩ := bid_stores hfee htracked hcall
  obtain ⟨-, hunit, -⟩ := hstored.reads (hsame ▸ hmultiplier)
  rw [hunit, hsame, unitOf]

theorem bid_balance (hcall : bid adapters module world sender order = .ok next)
    (hbuy : order.isSellAuction = false) :
    next.heldBalance order.component =
      world.heldBalance order.component + filledQuantity module world order -
        filledQuantity module world order * protocolFee module world / preciseUnit := by
  obtain ⟨hother, -, bidInfo, executed, charged, updated, hbidInfo, hexecuted, hcharged,
    hupdated, rfl⟩ := bid_eq_ok hcall
  have hrecords := records_of_createBidInfo hbidInfo
  obtain ⟨hreceiveToken, hsendToken, hquantity⟩ := hrecords.buy hbuy
  have hne : bidInfo.sendToken ≠ bidInfo.receiveToken := by
    rw [hsendToken, hreceiveToken]
    exact hother.symm
  have hreceived :=
    (settles_of_execution hne hrecords.received hexecuted hcharged).received
  obtain ⟨_, _, _, _, _, _, -, -, rfl⟩ := updatePositionState_eq_ok hupdated
  rw [hreceiveToken, hquantity] at hreceived
  exact hreceived

/-- Less the fee, a buy of up to the auction quantity never exceeds what is missing. -/
theorem netQuantity_le (hfee : protocolFee module world < preciseUnit)
    (hbuy : ¬targetNotional world component < currentNotional world component)
    {quantity : ℕ} (hquantity : quantity ≤ auctionQuantity module world component) :
    netQuantity module world quantity ≤
      targetNotional world component - currentNotional world component := by
  rw [auctionQuantity, if_neg hbuy] at hquantity
  exact Allocation.net_le_of_grossed hfee hquantity

/-! ## When bids stay on their side of the target -/

/-- The bid is on the side of the target that the units say, the new unit lies
between the old one and the target up to one unit of rounding, and a buy brings in
no more than the target notional lacks. -/
structure MovesTowardsTarget (order : BidOrder) (world next : World) : Prop where
  above : normalizedTargetUnit world order.component <
      world.setToken.defaultRealUnit order.component →
    order.isSellAuction = true ∧
      normalizedTargetUnit world order.component ≤
        next.setToken.defaultRealUnit order.component + 1 ∧
      next.setToken.defaultRealUnit order.component ≤
        world.setToken.defaultRealUnit order.component
  below : world.setToken.defaultRealUnit order.component <
      normalizedTargetUnit world order.component →
    order.isSellAuction = false ∧
      world.setToken.defaultRealUnit order.component ≤
        next.setToken.defaultRealUnit order.component + 1 ∧
      next.setToken.defaultRealUnit order.component ≤
        normalizedTargetUnit world order.component
  bought : order.isSellAuction = false →
    next.heldBalance order.component + currentNotional world order.component ≤
      world.heldBalance order.component + targetNotional world order.component

/-- How far past the target unit a computed unit starts to count as past it: a unit
of one more may still be lost in the conversion to a virtual unit. -/
def targetSlack (world : World) (component : Address) : ℕ :=
  if thereAndBack preciseUnit world.setToken.positionMultiplier.toNat
      (normalizedTargetUnit world component + 1) =
        normalizedTargetUnit world component + 1 then 1 else 2

/-- The rounded notionals of a unit above its target still differ, and what a buy
adds to a unit below its target does not reach past the target. -/
structure FitsTarget (module : Address) (world : World) (order : BidOrder) : Prop where
  above : normalizedTargetUnit world order.component <
      world.setToken.defaultRealUnit order.component →
    targetNotional world order.component < currentNotional world order.component
  below : world.setToken.defaultRealUnit order.component <
      normalizedTargetUnit world order.component →
    (currentNotional world order.component +
        netQuantity module world (filledQuantity module world order)) * preciseUnit <
      (normalizedTargetUnit world order.component +
        targetSlack world order.component) * world.setToken.totalSupply

/-- With at least one whole share, no buy reaches past its target. -/
theorem below_of_whole_share (hsupply : preciseUnit ≤ world.setToken.totalSupply)
    (hfee : protocolFee module world < preciseUnit)
    (hbuy : currentNotional world component < targetNotional world component)
    {quantity : ℕ} (hquantity : quantity ≤ auctionQuantity module world component) :
    (currentNotional world component + netQuantity module world quantity) * preciseUnit <
      (normalizedTargetUnit world component + targetSlack world component) *
        world.setToken.totalSupply := by
  have hnet := netQuantity_le hfee hbuy.asymm hquantity
  have hslack : 1 ≤ targetSlack world component := by
    unfold targetSlack
    split <;> omega
  have hless : currentNotional world component + netQuantity module world quantity ≤
      targetNotional world component := by omega
  exact (Allocation.mul_lt_of_le_wanted preciseUnit_pos hsupply hless).trans_le
    (Nat.mul_le_mul_right _ (Nat.add_le_add_left hslack _))

theorem filledQuantity_pos (hfee : protocolFee module world < preciseUnit)
    (hamount : 0 < order.componentAmount)
    (hbuy : currentNotional world order.component < targetNotional world order.component) :
    0 < filledQuantity module world order := by
  unfold filledQuantity
  split
  · rw [auctionQuantity, if_neg hbuy.asymm]
    refine Nat.div_pos ?_ (Nat.sub_pos_of_lt hfee)
    calc preciseUnit - protocolFee module world ≤ 1 * preciseUnit := by omega
      _ ≤ _ := Nat.mul_le_mul_right _ (Nat.sub_pos_of_lt hbuy)
  · exact hamount

theorem unitOf_bounds (hmultiplier : 0 < world.setToken.positionMultiplier)
    (hscale : world.setToken.positionMultiplier ≤ preciseUnitInt) (notional : ℕ) :
    unitOf world notional ≤ notional * preciseUnit / world.setToken.totalSupply ∧
      notional * preciseUnit / world.setToken.totalSupply ≤ unitOf world notional + 1 := by
  rw [← cast_preciseUnit] at hscale
  exact ⟨thereAndBack_le preciseUnit_pos _ _,
    le_thereAndBack_succ (by omega) (by omega) _⟩

/-- A unit computed from a notional amount lies past the target unit or not. -/
theorem unitOf_le_target_iff (hmultiplier : 0 < world.setToken.positionMultiplier)
    (hscale : world.setToken.positionMultiplier ≤ preciseUnitInt)
    (hsupply : 0 < world.setToken.totalSupply) {notional : ℕ} :
    unitOf world notional ≤ normalizedTargetUnit world component ↔
      notional * preciseUnit <
        (normalizedTargetUnit world component + targetSlack world component) *
          world.setToken.totalSupply := by
  rw [← cast_preciseUnit] at hscale
  rw [← Nat.div_lt_iff_lt_mul hsupply]
  exact thereAndBack_le_iff (by omega) (by omega)

/-- An accepted bid moves the unit towards its target and not across it exactly when
the notional amounts do not round the difference away. -/
theorem movesTowardsTarget_iff (hmultiplier : 0 < world.setToken.positionMultiplier)
    (hscale : world.setToken.positionMultiplier ≤ preciseUnitInt)
    (hsupply : 0 < world.setToken.totalSupply)
    (hfee : protocolFee module world < preciseUnit)
    (htracked : currentNotional world order.component ≤ world.heldBalance order.component)
    (hcall : bid adapters module world sender order = .ok next) :
    MovesTowardsTarget order world next ↔ FitsTarget module world order := by
  have hunit := bid_unit hmultiplier hfee.le htracked hcall
  obtain ⟨-, hamount, bidInfo, _, _, _, hbidInfo, -⟩ := bid_eq_ok hcall
  have hrecords := records_of_createBidInfo hbidInfo
  -- below the target the direction is always right, and the unit never falls
  have hbelow : world.setToken.defaultRealUnit order.component <
      normalizedTargetUnit world order.component →
      order.isSellAuction = false ∧
        world.setToken.defaultRealUnit order.component ≤
          next.setToken.defaultRealUnit order.component + 1 ∧
        (next.setToken.defaultRealUnit order.component ≤
          normalizedTargetUnit world order.component ↔
            (currentNotional world order.component +
                netQuantity module world (filledQuantity module world order)) *
                  preciseUnit <
              (normalizedTargetUnit world order.component +
                targetSlack world order.component) * world.setToken.totalSupply) := by
    intro hless
    have hnotional : currentNotional world order.component <
        targetNotional world order.component :=
      Allocation.held_lt_wanted preciseUnit_pos hsupply hless
    have hbuy : order.isSellAuction = false := by
      rw [← Bool.not_eq_true, hrecords.direction]
      exact hnotional.asymm
    have hafter : notionalAfter module world order =
        currentNotional world order.component +
          netQuantity module world (filledQuantity module world order) := by
      rw [notionalAfter, if_neg (by rw [hbuy]; exact Bool.false_ne_true)]
    have hadded : 0 < netQuantity module world (filledQuantity module world order) :=
      Allocation.net_pos preciseUnit_pos hfee (filledQuantity_pos hfee hamount hnotional)
    have hrises : world.setToken.defaultRealUnit order.component ≤
        (currentNotional world order.component +
          netQuantity module world (filledQuantity module world order)) * preciseUnit /
            world.setToken.totalSupply :=
      Allocation.le_unitFor preciseUnit_pos hsupply (Nat.lt_add_of_pos_right hadded)
    refine ⟨hbuy, ?_, ?_⟩
    · rw [hunit, hafter]
      exact hrises.trans (unitOf_bounds hmultiplier hscale _).2
    · rw [hunit, hafter]
      exact unitOf_le_target_iff hmultiplier hscale hsupply
  constructor
  · rintro ⟨habove, hreaches, -⟩
    exact ⟨fun hgreater => hrecords.direction.mp (habove hgreater).1,
      fun hless => (hbelow hless).2.2.mp (hreaches hless).2.2⟩
  · rintro ⟨habove, hreaches⟩
    refine ⟨fun hgreater => ?_, fun hless => ?_, fun hbuy => ?_⟩
    · have hnotional := habove hgreater
      have hsell := hrecords.direction.mpr hnotional
      have hsize := hrecords.size
      rw [auctionQuantity, if_pos hnotional] at hsize
      have hlow : targetNotional world order.component ≤
          notionalAfter module world order := by
        rw [notionalAfter, if_pos hsell]
        omega
      have hhigh : notionalAfter module world order ≤
          currentNotional world order.component := by
        rw [notionalAfter, if_pos hsell]
        exact Nat.sub_le _ _
      have hbetween := Allocation.unitFor_between preciseUnit_pos hsupply hlow hhigh
      obtain ⟨hdown, hup⟩ := unitOf_bounds hmultiplier hscale
        (notionalAfter module world order)
      rw [hunit]
      exact ⟨hsell, hbetween.1.trans hup, hdown.trans hbetween.2⟩
    · obtain ⟨hbuy, hlow, hhigh⟩ := hbelow hless
      exact ⟨hbuy, hlow, hhigh.mpr (hreaches hless)⟩
    · have hnot : ¬targetNotional world order.component <
          currentNotional world order.component := by
        rw [← hrecords.direction, hbuy]
        exact Bool.false_ne_true
      have hnet := netQuantity_le hfee hnot hrecords.size
      have hpaid := fee_le hfee.le (filledQuantity module world order)
      rw [bid_balance hcall hbuy]
      unfold netQuantity at hnet
      omega

/-- One adapter, and a price of one. -/
def parAdapters : Adapters where
  getIntegrationAdapter _ _ := 6
  getPrice _ _ _ _ _ _ _ := .ok (10 ^ 18)
  isPriceAdapterConfigDataValid _ _ := .ok true

/-- An auction that raises a unit of 1 to a target of 5, for a given supply. -/
def auctionWorld (supply : ℕ) : World where
  controller := { Controller.deploy 1 2 with
    isSet := fun setToken => setToken == 9
    isModule := fun module => module == 5 }
  setTokenAddress := 9
  setToken := { SetToken.deploy [10, 11] [1, 100] [5] 7 with
    moduleStates := fun module => if module = 5 then .INITIALIZED else .NONE
    totalSupply := supply }
  balances := fun token holder =>
    if token = 10 then (if holder = 9 then supply / 10 ^ 18 else 1000)
    else if token = 11 ∧ holder = 9 then supply / 10 ^ 16 else 0
  timestamp := 1
  executionInfo := fun component =>
    if component = 10 then ⟨5, "constant", []⟩ else ⟨0, "", []⟩
  permissionInfo := ⟨true, [], fun _ => false⟩
  rebalanceInfo := ⟨11, 0, 100, 10 ^ 18, 0, [10, 11]⟩

theorem movesTowardsTarget_one_share : ∃ next,
    bid parAdapters 5 (auctionWorld (10 ^ 18)) 3 ⟨10, 11, 4, 0, false⟩ = .ok next ∧
      (MovesTowardsTarget ⟨10, 11, 4, 0, false⟩ (auctionWorld (10 ^ 18)) next ↔
        FitsTarget 5 (auctionWorld (10 ^ 18)) ⟨10, 11, 4, 0, false⟩) := by
  obtain ⟨next, hcall, -⟩ := returns_iff.mp (by decide +kernel :
    Returns (bid parAdapters 5 (auctionWorld (10 ^ 18)) 3 ⟨10, 11, 4, 0, false⟩)
      fun _ => True)
  exact ⟨next, hcall, movesTowardsTarget_iff (by decide) (by decide) (by decide) (by decide)
    (by decide) hcall⟩

/-- With a tenth of a share, the least quantity there is takes the unit to ten. -/
theorem overshoots_at_tenth_share : ∃ next,
    bid parAdapters 5 (auctionWorld (10 ^ 17)) 3 ⟨10, 11, 1, 0, false⟩ = .ok next ∧
      0 < (auctionWorld (10 ^ 17)).setToken.totalSupply ∧
      (auctionWorld (10 ^ 17)).setToken.positionMultiplier = preciseUnitInt ∧
      protocolFee 5 (auctionWorld (10 ^ 17)) < preciseUnit ∧
      currentNotional (auctionWorld (10 ^ 17)) 10 ≤
        (auctionWorld (10 ^ 17)).heldBalance 10 ∧
      ¬MovesTowardsTarget ⟨10, 11, 1, 0, false⟩ (auctionWorld (10 ^ 17)) next := by
  obtain ⟨next, hcall, hunit⟩ := returns_iff.mp (by decide +kernel :
    Returns (bid parAdapters 5 (auctionWorld (10 ^ 17)) 3 ⟨10, 11, 1, 0, false⟩)
      fun next => next.setToken.defaultRealUnit 10 = 10)
  refine ⟨next, hcall, by decide, rfl, by decide, by decide, fun hmoves => ?_⟩
  have hcrossed := (hmoves.below (by decide)).2.2
  rw [hunit] at hcrossed
  revert hcrossed
  decide

end SetProtocol.AuctionRebalanceModule
