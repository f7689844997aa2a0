import SetProtocol.Core.RebalanceTargets
import SetProtocol.Modules.AuctionRebalanceBids

/-!
# Bids for all of an auction

The largest amount stands for whatever the auction still asks for.  Such a bid leaves the
notional amount of the target in the default position, bought or sold, and the unit that is
computed from it is the target unit; only its conversion to a virtual unit may take one away.
-/

namespace SetProtocol.AuctionRebalanceModule

open Transaction PreciseUnitMath Rounding

variable {adapters : Adapters} {module sender component : Address}
variable {world next : World} {order : BidOrder}

/-- The target is met, says the contract, and it is met up to one unit. -/
structure Settled (order : BidOrder) (world next : World) : Prop where
  met : targetUnmet next order.component = .ok false
  low : normalizedTargetUnit next order.component ≤
    next.setToken.defaultRealUnit order.component + 1
  high : next.setToken.defaultRealUnit order.component ≤
    normalizedTargetUnit next order.component + 1
  bought : order.isSellAuction = false →
    next.heldBalance order.component + currentNotional world order.component =
      world.heldBalance order.component + targetNotional world order.component

theorem normalizedTargetUnit_of_ok {unit : ℕ}
    (hread : getNormalizedTargetUnit world component = .ok unit) :
    normalizedTargetUnit world component = unit :=
  RebalanceTargets.unit_of_normalize hread

/-- Whoever bids has read the target. -/
theorem getNormalizedTargetUnit_of_bid
    (hcall : bid adapters module world sender order = .ok next) :
    getNormalizedTargetUnit world order.component =
      .ok (normalizedTargetUnit world order.component) := by
  obtain ⟨-, -, bidInfo, _, _, _, hbidInfo, -⟩ := bid_eq_ok hcall
  simp only [createBidInfo, calculateAuctionSizeAndDirection, getUnitsAndNotionalAmounts,
    bind_eq_ok] at hbidInfo
  obtain ⟨_, -, _, ⟨_, ⟨_, -, unit, hunit, -⟩, -⟩, -⟩ := hbidInfo
  rw [hunit, normalizedTargetUnit_of_ok hunit]

/-- A bid changes neither the targets nor the multiplier they are scaled with. -/
theorem targets_of_bid (hfee : protocolFee module world ≤ preciseUnit)
    (htracked : currentNotional world order.component ≤ world.heldBalance order.component)
    (hcall : bid adapters module world sender order = .ok next) :
    next.rebalanceInfo = world.rebalanceInfo ∧
      normalizedTargetUnit next order.component = normalizedTargetUnit world order.component ∧
      getNormalizedTargetUnit next order.component =
        .ok (normalizedTargetUnit world order.component) := by
  obtain ⟨hsame, -⟩ := bid_stores hfee htracked hcall
  have hread := getNormalizedTargetUnit_of_bid hcall
  obtain ⟨-, -, _, _, _, updated, -, -, -, -, rfl⟩ := bid_eq_ok hcall
  have hmultiplier : (world.withChain updated).setToken.positionMultiplier =
      world.setToken.positionMultiplier := hsame
  refine ⟨rfl, ?_, ?_⟩
  · rw [normalizedTargetUnit, hmultiplier]
    rfl
  · rw [getNormalizedTargetUnit, hmultiplier]
    exact hread

/-- The auction quantity, less the fee on it, is what the target lacks. -/
theorem netQuantity_auctionQuantity (hfee : protocolFee module world < preciseUnit)
    (hbuy : ¬targetNotional world component < currentNotional world component) :
    netQuantity module world (auctionQuantity module world component) =
      targetNotional world component - currentNotional world component := by
  rw [netQuantity, auctionQuantity, if_neg hbuy]
  exact net_of_gross _ hfee

/-- All of the auction takes the default position to the target. -/
theorem notionalAfter_of_all {bidInfo : BidInfo}
    (hfee : protocolFee module world < preciseUnit)
    (hall : order.componentAmount = maxUint256)
    (hrecords : Records module world order bidInfo) :
    notionalAfter module world order = targetNotional world order.component := by
  rw [notionalAfter, filledQuantity, if_pos hall]
  split
  · rename_i hsell
    have hmore := hrecords.direction.mp hsell
    rw [auctionQuantity, if_pos hmore]
    omega
  · rename_i hbuy
    have hless := mt hrecords.direction.mpr hbuy
    rw [netQuantity_auctionQuantity hfee hless]
    omega

/-- What can be stored leaves room for one more. -/
theorem storable_lt {setToken : SetToken} {unit : ℕ}
    (hmultiplier : 0 < setToken.positionMultiplier)
    (hstored : Position.StoresUnit setToken component unit) : unit < maxUint256 := by
  obtain ⟨hfits, -⟩ :=
    (Position.convertRealToVirtualUnit_returns hmultiplier).mp ⟨_, hstored⟩
  have hone : (1 : ℤ) ≤ preciseUnitInt := preciseUnitInt_pos
  have hwide : maxInt256 < (maxUint256 : ℤ) := by decide
  have hunit := le_mul_of_one_le_right (Int.natCast_nonneg unit) hone
  exact_mod_cast (hunit.trans hfits).trans_lt hwide

/-- A bid for all of an auction settles it. -/
theorem settled_of_full_bid (hmultiplier : 0 < world.setToken.positionMultiplier)
    (hscale : world.setToken.positionMultiplier ≤ preciseUnitInt)
    (hsupply : preciseUnit ≤ world.setToken.totalSupply)
    (hfee : protocolFee module world < preciseUnit)
    (htracked : currentNotional world order.component ≤ world.heldBalance order.component)
    (hall : order.componentAmount = maxUint256)
    (hcall : bid adapters module world sender order = .ok next) :
    Settled order world next := by
  obtain ⟨hsame, hstored⟩ := bid_stores hfee.le htracked hcall
  obtain ⟨hinfo, htarget, hread⟩ := targets_of_bid hfee.le htracked hcall
  obtain ⟨hother, -, bidInfo, _, _, _, hbidInfo, -⟩ := bid_eq_ok hcall
  have hrecords := records_of_createBidInfo hbidInfo
  have hexact : targetNotional world order.component * preciseUnit /
      world.setToken.totalSupply = normalizedTargetUnit world order.component :=
    Allocation.unitFor_wanted preciseUnit_pos hsupply
  rw [notionalAfter_of_all hfee hall hrecords, hexact] at hstored
  obtain ⟨hreads, hunit, hkept⟩ := hstored.reads (hsame ▸ hmultiplier)
  -- a target of one is either converted exactly or refused
  have hdown : next.setToken.defaultRealUnit order.component ≤
      normalizedTargetUnit world order.component := by
    rw [hunit]
    exact thereAndBack_le preciseUnit_pos _ _
  have hup : normalizedTargetUnit world order.component ≤
      next.setToken.defaultRealUnit order.component + 1 := by
    rw [← cast_preciseUnit] at hscale
    rw [hunit, hsame]
    exact le_thereAndBack_succ (by omega) (by omega) _
  refine ⟨?_, htarget ▸ hup, htarget ▸ hdown.trans (Nat.le_succ _), fun hbuy => ?_⟩
  · have hcurrent : getDefaultPositionRealUnit next order.component =
        .ok (next.setToken.defaultRealUnit order.component) := by
      rw [getDefaultPositionRealUnit, hreads, ok_bind, SafeCast.toUint256_eq_ok]
    rw [targetUnmet, hinfo, if_neg hother, hread, ok_bind, hcurrent, ok_bind]
    split
    · rename_i hpositive
      have hclose : approximatelyEquals (normalizedTargetUnit world order.component)
          (next.setToken.defaultRealUnit order.component) 1 = .ok true := by
        refine approximatelyEquals_eq_ok.mpr ⟨?_, Or.inr (hkept hpositive), ?_⟩
        · exact (Nat.add_le_add_right hdown 1).trans (storable_lt (hsame ▸ hmultiplier) hstored)
        · exact decide_eq_true ⟨hup, hdown.trans (Nat.le_succ _)⟩
      rw [hclose]
      rfl
    · rename_i hzero
      have hequal : normalizedTargetUnit world order.component =
          next.setToken.defaultRealUnit order.component := by omega
      rw [decide_eq_false (not_not.mpr hequal)]
      rfl
  · have hnot : ¬targetNotional world order.component <
        currentNotional world order.component := by
      rw [← hrecords.direction, hbuy]
      exact Bool.false_ne_true
    have hnet := netQuantity_auctionQuantity hfee hnot
    have hcharged := fee_le hfee.le (auctionQuantity module world order.component)
    rw [bid_balance hcall hbuy, filledQuantity, if_pos hall]
    unfold netQuantity at hnet
    omega

/-- The four units that one share lacks are bought. -/
theorem settled_one_share : ∃ next,
    bid parAdapters 5 (auctionWorld (10 ^ 18)) 3 ⟨10, 11, maxUint256, 0, false⟩ = .ok next ∧
      Settled ⟨10, 11, maxUint256, 0, false⟩ (auctionWorld (10 ^ 18)) next := by
  obtain ⟨next, hcall, -⟩ := returns_iff.mp (by decide +kernel :
    Returns (bid parAdapters 5 (auctionWorld (10 ^ 18)) 3 ⟨10, 11, maxUint256, 0, false⟩)
      fun _ => True)
  exact ⟨next, hcall, settled_of_full_bid (by decide) (by decide) (by decide) (by decide)
    (by decide) rfl hcall⟩

end SetProtocol.AuctionRebalanceModule
