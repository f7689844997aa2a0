import SetProtocol.Core.RebalanceTargets
import SetProtocol.Core.SetTokenCreator
import SetProtocol.Library.Search
import SetProtocol.Modules.GeneralIndexDirection

/-!
# Stored and normalized targets

The index module stores raw targets and normalizes them by the ratio of two multipliers,
which a fee accrual lowers and a raise of the targets increases.  Most of the module works
with the normalized target; the check before the remaining WETH is traded works with the
stored one.  For every state of a history this file says when the checks, the sizes and the
results agree on the normalized target.
-/

namespace SetProtocol.GeneralIndexModule

open Transaction PreciseUnitMath

variable {P : Type} {exchanges : Exchanges P} {module weth component : Address}
variable {caller : Caller} {world next : World P} {minComponentReceived : ℕ}
variable {event : TradeExecuted}

/-- Reading the unit computes a product that fits in a word. -/
def UnitFits (world : World P) (component : Address) : Prop :=
  FitsInt256 (world.setToken.defaultPositionVirtualUnit component *
    world.setToken.positionMultiplier)

/-- So does normalizing the target. -/
def TargetFits (world : World P) (component : Address) : Prop :=
  (world.executionInfo component).targetUnit *
    world.setToken.positionMultiplier.toNat ≤ maxUint256

instance (world : World P) (component : Address) : Decidable (UnitFits world component) :=
  inferInstanceAs (Decidable (_ ∧ _))

instance (world : World P) (component : Address) : Decidable (TargetFits world component) :=
  inferInstanceAs (Decidable (_ ≤ _))

/-- A target of a single unit, and no unit to subtract one from. -/
def Incomparable (world : World P) (component : Address) : Prop :=
  normalizedTargetUnit world component = 1 ∧ world.setToken.defaultRealUnit component = 0

instance (world : World P) (component : Address) : Decidable (Incomparable world component) :=
  inferInstanceAs (Decidable (_ ∧ _))

/-- WETH may float; the others have reached their targets, up to one. -/
def TargetMet (weth : Address) (world : World P) (component : Address) : Prop :=
  component = weth ∨ RebalanceTargets.Met (normalizedTargetUnit world component)
    (world.setToken.defaultRealUnit component)

/-- Nothing of the component is above its target. -/
def SoldDown (weth : Address) (world : World P) (component : Address) : Prop :=
  component = weth ∨
    world.setToken.defaultRealUnit component ≤ normalizedTargetUnit world component

/-- Every component up to the first unmet target can be read and compared. -/
def TargetsComparable (weth : Address) (world : World P) : Prop :=
  ∀ before component after,
    world.rebalanceInfo.rebalanceComponents = before ++ component :: after →
    (∀ earlier ∈ before, TargetMet weth world earlier) →
      component = weth ∨
        (TargetFits world component ∧ UnitFits world component) ∧
          ¬Incomparable world component

/-- Every component up to the first that can be sold can be read. -/
def TargetsReadable (weth : Address) (world : World P) : Prop :=
  ∀ before component after,
    world.rebalanceInfo.rebalanceComponents = before ++ component :: after →
    (∀ earlier ∈ before, SoldDown weth world earlier) →
      component = weth ∨ (TargetFits world component ∧ UnitFits world component)

/-- The stored target of WETH times the current multiplier, to compare with its unit times the
multiplier at the beginning of the rebalance. -/
def scaledTarget (weth : Address) (world : World P) : ℕ :=
  (world.executionInfo weth).targetUnit * world.setToken.positionMultiplier.toNat

def scaledUnit (weth : Address) (world : World P) : ℕ :=
  world.setToken.defaultRealUnit weth * world.rebalanceInfo.positionMultiplier

/-- No accrual of fees has brought the target below a unit that is not above the stored target,
and no raise has brought it up to a unit that is. -/
structure SameSide (weth : Address) (world : World P) : Prop where
  accrued : (UnitFits world weth →
      world.setToken.defaultRealUnit weth ≤ (world.executionInfo weth).targetUnit) →
    scaledUnit weth world ≤ scaledTarget weth world
  raised : UnitFits world weth →
    (world.executionInfo weth).targetUnit < world.setToken.defaultRealUnit weth →
    scaledTarget weth world < scaledUnit weth world

/-- Whatever is to be bought, the call goes on past its check of the WETH. -/
def PassesWETHCheck (exchanges : Exchanges P) (module : Address) (world : World P)
    (caller : Caller) : Prop :=
  ∀ component minComponentReceived,
    tradeRemainingWETH exchanges module world caller component minComponentReceived =
      tradeExcessWETH exchanges module world caller component minComponentReceived

/-- Some whole amount lies between what the target asks for all shares and what they have. -/
def AmountBetween (weth : Address) (world : World P) : Prop :=
  ∃ amount, world.setToken.totalSupply * normalizedTargetUnit world weth ≤ amount * preciseUnit ∧
    amount * preciseUnit ≤ world.setToken.totalSupply * world.setToken.defaultRealUnit weth

/-! ## When the loops answer -/

theorem getNormalizedTargetUnit_eq_ok (hkept : Bookkept world.setToken)
    (hrebalance : 0 < world.rebalanceInfo.positionMultiplier) {unit : ℕ} :
    getNormalizedTargetUnit world component = .ok unit ↔
      TargetFits world component ∧ normalizedTargetUnit world component = unit :=
  (RebalanceTargets.normalize_eq_ok hkept.multiplier_pos).trans
    (and_congr_right fun _ => and_iff_right hrebalance)

theorem getDefaultPositionRealUnit_eq_ok (hkept : Bookkept world.setToken) {unit : ℕ} :
    getDefaultPositionRealUnit world component = .ok unit ↔
      UnitFits world component ∧ world.setToken.defaultRealUnit component = unit :=
  RebalanceTargets.read_eq_ok.trans
    (and_congr_left fun _ => RebalanceTargets.readable_iff hkept)

theorem decides_targetUnmet (hkept : Bookkept world.setToken)
    (hrebalance : 0 < world.rebalanceInfo.positionMultiplier) :
    Decides (targetUnmet weth world)
      (fun component => component = weth ∨
        (TargetFits world component ∧ UnitFits world component) ∧
          ¬Incomparable world component)
      (TargetMet weth world) component := by
  intro unmet
  by_cases hweth : component = weth
  · rw [targetUnmet, if_pos hweth, pure_eq_ok]
    simp [TargetMet, hweth, eq_comm]
  · rw [targetUnmet, if_neg hweth]
    simp only [bind_eq_ok, getNormalizedTargetUnit_eq_ok hkept hrebalance,
      getDefaultPositionRealUnit_eq_ok hkept, TargetMet, hweth, false_or]
    constructor
    · rintro ⟨_, ⟨htarget, rfl⟩, _, ⟨hunit, rfl⟩, hcompare⟩
      rw [RebalanceTargets.compare_eq_ok (RebalanceTargets.defaultRealUnit_lt hkept hunit)]
        at hcompare
      exact ⟨⟨⟨htarget, hunit⟩, hcompare.1⟩, hcompare.2⟩
    · rintro ⟨⟨⟨htarget, hunit⟩, hcomparable⟩, hdecided⟩
      refine ⟨_, ⟨htarget, rfl⟩, _, ⟨hunit, rfl⟩, ?_⟩
      rw [RebalanceTargets.compare_eq_ok (RebalanceTargets.defaultRealUnit_lt hkept hunit)]
      exact ⟨hcomparable, hdecided⟩

theorem decides_canSell (hkept : Bookkept world.setToken)
    (hrebalance : 0 < world.rebalanceInfo.positionMultiplier) :
    Decides (canSell weth world)
      (fun component => component = weth ∨
        (TargetFits world component ∧ UnitFits world component))
      (SoldDown weth world) component := by
  intro sellable
  by_cases hweth : component = weth
  · rw [canSell, if_pos hweth, pure_eq_ok]
    simp [SoldDown, hweth, eq_comm]
  · rw [canSell, if_neg hweth]
    simp only [bind_eq_ok, getNormalizedTargetUnit_eq_ok hkept hrebalance,
      getDefaultPositionRealUnit_eq_ok hkept, SoldDown, hweth, false_or, pure_eq_ok, not_le]
    constructor
    · rintro ⟨_, ⟨htarget, rfl⟩, _, ⟨hunit, rfl⟩, rfl⟩
      refine ⟨⟨htarget, hunit⟩, ?_⟩
      rw [decide_eq_false_iff_not, decide_eq_true_eq, not_lt, and_self, and_self]
      exact le_or_gt _ _
    · rintro ⟨⟨htarget, hunit⟩, ⟨rfl, hless⟩ | ⟨rfl, hmore⟩⟩
      · exact ⟨_, ⟨htarget, rfl⟩, _, ⟨hunit, rfl⟩, decide_eq_false hless.not_gt⟩
      · exact ⟨_, ⟨htarget, rfl⟩, _, ⟨hunit, rfl⟩, decide_eq_true hmore⟩

theorem allTargetsMetFrom_eq_noneOf (weth : Address) (world : World P)
    (components : List Address) :
    allTargetsMetFrom weth world components = noneOf (targetUnmet weth world) components :=
  eq_noneOf rfl (fun _ _ => rfl) components

theorem noTokensToSellFrom_eq_noneOf (weth : Address) (world : World P)
    (components : List Address) :
    noTokensToSellFrom weth world components = noneOf (canSell weth world) components :=
  eq_noneOf rfl (fun _ _ => rfl) components

theorem allTargetsMet_answers_iff (hkept : Bookkept world.setToken)
    (hrebalance : 0 < world.rebalanceInfo.positionMultiplier) :
    (∃ met, allTargetsMet weth world = .ok met) ↔ TargetsComparable weth world := by
  rw [allTargetsMet, allTargetsMetFrom_eq_noneOf]
  exact noneOf_answers_iff fun _ _ => decides_targetUnmet hkept hrebalance

theorem noTokensToSell_answers_iff (hkept : Bookkept world.setToken)
    (hrebalance : 0 < world.rebalanceInfo.positionMultiplier) :
    (∃ sold, noTokensToSell weth world = .ok sold) ↔ TargetsReadable weth world := by
  rw [noTokensToSell, noTokensToSellFrom_eq_noneOf]
  exact noneOf_answers_iff fun _ _ => decides_canSell hkept hrebalance

/-! ## The check and the size -/

theorem validateWETHAboveTarget_passes_iff (hkept : Bookkept world.setToken) :
    validateWETHAboveTarget weth world = .ok () ↔ UnitFits world weth ∧
      (world.executionInfo weth).targetUnit < world.setToken.defaultRealUnit weth := by
  simp only [validateWETHAboveTarget, bind_eq_ok, getDefaultPositionRealUnit_eq_ok hkept,
    require_eq_ok]
  constructor
  · rintro ⟨_, ⟨hfits, rfl⟩, hless⟩
    exact ⟨hfits, hless⟩
  · rintro ⟨hfits, hless⟩
    exact ⟨_, ⟨hfits, rfl⟩, hless⟩

/-- The callers that get as far as the check of the WETH. -/
structure ReachesWETHCheck (weth : Address) (world : World P) (caller : Caller) : Prop where
  allowed : validateOnlyAllowedTrader world caller.sender = .ok ()
  unrestricted : validateOnlyEOAIfUnrestricted world caller = .ok ()
  sold : noTokensToSell weth world = .ok true

theorem tradeRemainingWETH_of_reaches (hreaches : ReachesWETHCheck exchanges.weth world caller)
    (component : Address) (minComponentReceived : ℕ) :
    tradeRemainingWETH exchanges module world caller component minComponentReceived =
      (validateWETHAboveTarget exchanges.weth world >>= fun _ =>
        tradeExcessWETH exchanges module world caller component minComponentReceived) := by
  have hrequire : require (true = true) "Sell other set components first" = .ok () := rfl
  rw [tradeRemainingWETH, hreaches.allowed, ok_bind, hreaches.unrestricted, ok_bind,
    hreaches.sold, ok_bind, hrequire, ok_bind]

theorem validateWETHAboveTarget_reasons : RevertsOnly
    (fun reason => reason ∈ arithmeticReasons ∨ reason = "WETH is below target unit")
    (validateWETHAboveTarget weth world) := by
  apply RevertsOnly.bind
  · apply RevertsOnly.mono _ fun reason => Or.inl
    apply RevertsOnly.bind
    · exact SetToken.arithmetic_convertVirtualToRealUnit _ _
    · exact fun _ _ => SafeCast.arithmetic_toUint256 _
  · exact fun _ _ => revertsOnly_require fun _ => Or.inr rfl

/-- A call that is refused for its WETH would have been refused for trading WETH explicitly, had
it gone on to buy WETH with WETH, and the two are told apart by what they say. -/
theorem passesWETHCheck_iff (hreaches : ReachesWETHCheck exchanges.weth world caller) :
    PassesWETHCheck exchanges module world caller ↔
      validateWETHAboveTarget exchanges.weth world = .ok () := by
  constructor
  · intro hpasses
    cases hcheck : validateWETHAboveTarget exchanges.weth world with
    | ok => rfl
    | error reason =>
        have hrest := hpasses exchanges.weth 0
        rw [tradeRemainingWETH_of_reaches hreaches, hcheck] at hrest
        have hexplicit : tradeExcessWETH exchanges module world caller exchanges.weth 0 =
            .error "Can not explicitly trade WETH" := by
          unfold tradeExcessWETH validateTradeParameters
          rw [require, if_neg (not_not.mpr rfl)]
          rfl
        rw [hexplicit] at hrest
        have hreason : reason = "Can not explicitly trade WETH" := Except.error.inj hrest
        have hknown := validateWETHAboveTarget_reasons reason hcheck
        rw [hreason] at hknown
        exact absurd hknown (by decide)
  · intro hcheck component minComponentReceived
    rw [tradeRemainingWETH_of_reaches hreaches, hcheck, ok_bind]

theorem normalizedTargetUnit_lt_iff (hrebalance : 0 < world.rebalanceInfo.positionMultiplier) :
    normalizedTargetUnit world weth < world.setToken.defaultRealUnit weth ↔
      scaledTarget weth world < scaledUnit weth world :=
  Nat.div_lt_iff_lt_mul hrebalance

theorem sameSide_iff (hkept : Bookkept world.setToken)
    (hrebalance : 0 < world.rebalanceInfo.positionMultiplier)
    (hreaches : ReachesWETHCheck exchanges.weth world caller) :
    (PassesWETHCheck exchanges module world caller ↔
      normalizedTargetUnit world exchanges.weth <
        world.setToken.defaultRealUnit exchanges.weth) ↔ SameSide exchanges.weth world := by
  rw [passesWETHCheck_iff hreaches, validateWETHAboveTarget_passes_iff hkept,
    normalizedTargetUnit_lt_iff hrebalance]
  constructor
  · intro hsame
    constructor
    · intro hstored
      rw [← not_lt, ← hsame]
      exact fun hpasses => (hstored hpasses.1).not_gt hpasses.2
    · exact fun hfits hless => hsame.mp ⟨hfits, hless⟩
  · intro hsame
    constructor
    · exact fun hpasses => hsame.raised hpasses.1 hpasses.2
    · intro habove
      by_contra hrefused
      rw [not_and, not_lt] at hrefused
      exact (hsame.accrued hrefused).not_gt habove

/-- What is sent is the difference of the two amounts, once both can be computed. -/
theorem createTradeRemainingInfo_underflows_iff {minComponentReceived : ℕ} {adapter : Address}
    {amounts : ℕ × ℕ × ℕ × ℕ}
    (hadapter : getAndValidateAdapter exchanges.registry module
      (world.executionInfo component).exchangeName = .ok adapter)
    (hamounts : getUnitsAndNotionalAmounts world exchanges.weth world.setToken.totalSupply =
      .ok amounts) :
    createTradeRemainingInfo exchanges module world component minComponentReceived =
      .error "SafeMath: subtraction overflow" ↔ ¬AmountBetween exchanges.weth world := by
  obtain ⟨unit, target, current, wanted⟩ := amounts
  obtain ⟨tradeInfo, hdefault, hsupply⟩ : ∃ tradeInfo,
      getDefaultTradeInfo exchanges module world component false = .ok tradeInfo ∧
        tradeInfo.setTotalSupply = world.setToken.totalSupply :=
    ⟨_, by rw [getDefaultTradeInfo, hadapter]; rfl, rfl⟩
  rw [createTradeRemainingInfo, hdefault, ok_bind, hsupply, hamounts, ok_bind]
  obtain ⟨rfl, rfl, rfl, rfl⟩ := getUnitsAndNotionalAmounts_eq_ok hamounts
  have hbetween : targetNotional world exchanges.weth ≤ currentNotional world exchanges.weth ↔
      AmountBetween exchanges.weth world := Allocation.wanted_le_held_iff preciseUnit_pos
  rw [← hbetween]
  dsimp only
  by_cases hle : targetNotional world exchanges.weth ≤ currentNotional world exchanges.weth
  · rw [SafeMath.sub_eq_ok.mpr ⟨hle, rfl⟩, ok_bind]
    exact iff_of_false pure_ne_error (not_not.mpr hle)
  · rw [SafeMath.sub, if_neg hle]
    exact iff_of_true rfl hle

/-! ## What remains of the WETH -/

theorem normalizedTargetUnit_of_settlement {tradeInfo : TradeInfo}
    {netSent netReceived fee : ℕ} (hother : weth ≠ component)
    (hsettlement : Settlement exchanges module world component tradeInfo next netSent
      netReceived fee) :
    normalizedTargetUnit next weth = normalizedTargetUnit world weth := by
  rw [normalizedTargetUnit, hsettlement.executionInfo, Function.update_of_ne hother,
    hsettlement.repositioned.positionMultiplier, hsettlement.rebalanceInfo]
  rfl

theorem targetKept_iff (hmultiplier : 0 < world.setToken.positionMultiplier)
    (hscale : world.setToken.positionMultiplier ≤ preciseUnitInt)
    (hcall : tradeRemainingWETH exchanges module world caller component
      minComponentReceived = .ok (next, event)) :
    normalizedTargetUnit next exchanges.weth ≤
        next.setToken.defaultRealUnit exchanges.weth + 1 ↔
      normalizedTargetUnit world exchanges.weth ≤ 1 ∨
        (0 < world.setToken.totalSupply ∧
          currentNotional world exchanges.weth ≤ world.heldBalance exchanges.weth) := by
  obtain ⟨hmay, -, tradeInfo, netSent, netReceived, fee, -, hsend, hle, hquantity, hsettlement,
    -⟩ := tradeRemainingWETH_eq_ok hcall
  have hsame := hsettlement.repositioned.positionMultiplier
  have hheld := hsettlement.heldSent
  have hsent := hsettlement.sent
  have hless := hsettlement.sent_le
  rw [hquantity] at hless
  rw [hsend] at hheld hsent
  rw [normalizedTargetUnit_of_settlement hmay.other.symm hsettlement]
  by_cases hbacked : 0 < world.setToken.totalSupply ∧
      currentNotional world exchanges.weth ≤ world.heldBalance exchanges.weth
  · have hstored := hsent.stores hbacked.2
    obtain ⟨-, hup⟩ := read_bounds (hsame ▸ hmultiplier) (hsame ▸ hscale) hstored
    have hlow : targetNotional world exchanges.weth ≤ currentNotional world exchanges.weth +
        next.heldBalance exchanges.weth - world.heldBalance exchanges.weth := by omega
    have hhigh : currentNotional world exchanges.weth + next.heldBalance exchanges.weth -
        world.heldBalance exchanges.weth ≤ currentNotional world exchanges.weth := by omega
    obtain ⟨habove, -⟩ := Allocation.unitFor_between preciseUnit_pos hbacked.1 hlow hhigh
    exact iff_of_true (habove.trans hup) (Or.inr hbacked)
  · -- everything has left, or there are no shares
    have hstored : Position.StoresUnit next.setToken exchanges.weth 0 := by
      rcases not_and_or.mp hbacked with hnone | huntracked
      · have hnone : world.setToken.totalSupply = 0 := Nat.eq_zero_of_not_pos hnone
        rw [hnone] at hsent
        have hstored := hsent.stores (by simp [Allocation.held])
        rw [Allocation.unitFor, Nat.div_zero] at hstored
        exact hstored
      · apply hsent.emptied
        exact Nat.eq_zero_of_not_pos fun hleft => huntracked (hsent.checked hleft).1
    obtain ⟨hdown, -⟩ := read_bounds (hsame ▸ hmultiplier) (hsame ▸ hscale) hstored
    rw [Nat.le_zero.mp hdown, Nat.zero_add, or_iff_left hbacked]

/-! ## Histories -/

theorem bookkept_of_calls (hkept : Bookkept world.setToken)
    (calls : List (IndexCall module)) :
    Bookkept (run (perform exchanges module) calls world).setToken := by
  have hstep : ∀ call ∈ calls, ∀ before after : World P, Bookkept before.setToken →
      perform exchanges module call before = .ok after → Bookkept after.setToken :=
    fun _ _ _ _ hbefore hcall => (effects_of_ok hcall).bookkept hbefore
  exact run_preserves (fun world : World P => Bookkept world.setToken) hstep hkept

/-- In every state of a history with a positive multiplier: when the loops answer, when the
remaining WETH passes its check exactly above the normalized target, when the size of its trade
underflows, and when the trade leaves the normalized target. -/
theorem oneTarget_after_history (hkept : Bookkept world.setToken)
    (calls : List (IndexCall module))
    (hrebalance : 0 < (run (perform exchanges module) calls
      world).rebalanceInfo.positionMultiplier) :
    let reached := run (perform exchanges module) calls world
    ((∃ met, allTargetsMet exchanges.weth reached = .ok met) ↔
        TargetsComparable exchanges.weth reached) ∧
      ((∃ sold, noTokensToSell exchanges.weth reached = .ok sold) ↔
        TargetsReadable exchanges.weth reached) ∧
      (∀ caller, ReachesWETHCheck exchanges.weth reached caller →
        ((PassesWETHCheck exchanges module reached caller ↔
          normalizedTargetUnit reached exchanges.weth <
            reached.setToken.defaultRealUnit exchanges.weth) ↔
              SameSide exchanges.weth reached)) ∧
      (∀ component minComponentReceived adapter amounts,
        getAndValidateAdapter exchanges.registry module
          (reached.executionInfo component).exchangeName = .ok adapter →
        getUnitsAndNotionalAmounts reached exchanges.weth reached.setToken.totalSupply =
          .ok amounts →
        (createTradeRemainingInfo exchanges module reached component minComponentReceived =
            .error "SafeMath: subtraction overflow" ↔
          ¬AmountBetween exchanges.weth reached)) ∧
      (reached.setToken.positionMultiplier ≤ preciseUnitInt →
        ∀ caller component minComponentReceived next event,
          tradeRemainingWETH exchanges module reached caller component
            minComponentReceived = .ok (next, event) →
          (normalizedTargetUnit next exchanges.weth ≤
              next.setToken.defaultRealUnit exchanges.weth + 1 ↔
            normalizedTargetUnit reached exchanges.weth ≤ 1 ∨
              (0 < reached.setToken.totalSupply ∧
                currentNotional reached exchanges.weth ≤
                  reached.heldBalance exchanges.weth))) := by
  intro reached
  have hreached : Bookkept reached.setToken := bookkept_of_calls hkept calls
  refine ⟨allTargetsMet_answers_iff hreached hrebalance,
    noTokensToSell_answers_iff hreached hrebalance, ?_, ?_, ?_⟩
  · intro caller hreaches
    exact sameSide_iff hreached hrebalance hreaches
  · intro component minComponentReceived adapter amounts hadapter hamounts
    exact createTradeRemainingInfo_underflows_iff hadapter hamounts
  · intro hscale caller component minComponentReceived next event hcall
    exact targetKept_iff hreached.multiplier_pos hscale hcall

theorem bookkept_indexWorld : Bookkept indexWorld.setToken :=
  (SetTokenCreator.bookkept_deploy rfl (by decide) (by decide) :
    Bookkept (SetToken.deploy [10, 11] [1, 100] [5] 7)).of_same_positions rfl rfl rfl

/-- Two hundred units of the component are wanted, fifty of them for half of the WETH. -/
def halfSpentCalls : List (IndexCall 5) :=
  [.startRebalance 7 ⟨[], [], [200, 50], 1000000000000000000⟩, .setTradeMaximums 7 [10] [60]]

/-- The rebalance has started: the loops answer, fifty units of WETH can be sold, and after that
WETH is at its target. -/
theorem oneTarget_after_history_halfSpent :
    let reached := run (perform parExchanges 5) halfSpentCalls indexWorld
    (∃ met, allTargetsMet 11 reached = .ok met) ∧
      (∃ sold, noTokensToSell 11 reached = .ok sold) ∧
      (PassesWETHCheck parExchanges 5 reached ⟨3, 3⟩ ↔
        normalizedTargetUnit reached 11 < reached.setToken.defaultRealUnit 11) ∧
      createTradeRemainingInfo parExchanges 5 reached 10 0 ≠
        .error "SafeMath: subtraction overflow" ∧
      ∃ next event, tradeRemainingWETH parExchanges 5 reached ⟨3, 3⟩ 10 0 = .ok (next, event) ∧
        normalizedTargetUnit next 11 ≤ next.setToken.defaultRealUnit 11 + 1 := by
  intro reached
  obtain ⟨hmet, hsold, hcheck, hsize, htarget⟩ :=
    @oneTarget_after_history Unit parExchanges 5 indexWorld bookkept_indexWorld halfSpentCalls
      (by decide +kernel)
  have hlisted : reached.rebalanceInfo.rebalanceComponents = [10, 11] := by decide +kernel
  have hreadable : ∀ component ∈ reached.rebalanceInfo.rebalanceComponents, component = 11 ∨
      (TargetFits reached component ∧ UnitFits reached component) ∧
        ¬Incomparable reached component := by
    rw [hlisted]
    decide +kernel
  have hmem : ∀ before component after,
      reached.rebalanceInfo.rebalanceComponents = before ++ component :: after →
        component ∈ reached.rebalanceInfo.rebalanceComponents := by
    intro before component after hsplit
    rw [hsplit]
    exact List.mem_append_right _ List.mem_cons_self
  obtain ⟨⟨next, event⟩, hcall, -⟩ := returns_iff.mp (by decide +kernel :
    Returns (tradeRemainingWETH parExchanges 5 reached ⟨3, 3⟩ 10 0) fun _ => True)
  obtain ⟨amounts, hamounts, -⟩ := returns_iff.mp (by decide +kernel :
    Returns (getUnitsAndNotionalAmounts reached 11 reached.setToken.totalSupply) fun _ => True)
  refine ⟨hmet.mpr fun before component after hsplit _ => ?_,
    hsold.mpr fun before component after hsplit _ => ?_, (hcheck ⟨3, 3⟩ ?_).mpr ?_, ?_,
    next, event, hcall, ?_⟩
  · exact hreadable component (hmem before component after hsplit)
  · exact (hreadable component (hmem before component after hsplit)).imp_right And.left
  · exact ⟨by decide +kernel, by decide +kernel, by decide +kernel⟩
  · exact ⟨fun hstored => absurd (hstored (by decide +kernel)) (by decide +kernel),
      fun _ _ => by decide +kernel⟩
  · have hbetween : AmountBetween 11 reached := ⟨60, by decide +kernel, by decide +kernel⟩
    exact fun hunderflows => (hsize 10 0 6 amounts rfl hamounts).mp hunderflows hbetween
  · exact (htarget (by decide +kernel) ⟨3, 3⟩ 10 0 next event hcall).mpr
      (Or.inr (by decide +kernel))

/-- A component that the Set does not hold yet gets a target of one unit. -/
def singleUnitPlan : RebalancePlan := ⟨[12], [1], [1, 50], 1000000000000000000⟩

/-- The component stays as it is, and half of the WETH is to be sold. -/
def halfWETHPlan : RebalancePlan := ⟨[], [], [1, 50], 1000000000000000000⟩

/-- Comparing a target of one with no unit underflows.  After a raise by a half more than the
whole the normalized target exceeds all WETH, the check still passes, and the size
underflows. -/
theorem not_oneTarget_after_raise :
    let started := run (perform parExchanges 5) [.startRebalance 7 singleUnitPlan] indexWorld
    let raised := run (perform parExchanges 5) [.startRebalance 7 halfWETHPlan,
      .setRaiseTargetPercentage 7 1500000000000000000, .raiseAssetTargets 3] indexWorld
    (0 < started.rebalanceInfo.positionMultiplier ∧
      allTargetsMet 11 started = .error "SafeMath: subtraction overflow") ∧
      0 < raised.rebalanceInfo.positionMultiplier ∧
      validateWETHAboveTarget 11 raised = .ok () ∧
      raised.setToken.defaultRealUnit 11 < normalizedTargetUnit raised 11 ∧
      tradeRemainingWETH parExchanges 5 raised ⟨3, 3⟩ 10 0 =
        .error "SafeMath: subtraction overflow" :=
  ⟨⟨by decide +kernel, reverts_iff.mp (by decide +kernel)⟩, by decide +kernel, rfl,
    by decide +kernel, reverts_iff.mp (by decide +kernel)⟩

end SetProtocol.GeneralIndexModule
