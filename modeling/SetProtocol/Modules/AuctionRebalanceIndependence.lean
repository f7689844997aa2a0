import SetProtocol.Library.Coupling
import SetProtocol.Modules.AuctionRebalanceLifecycle

/-!
# Leftovers of earlier rebalances

`startRebalance` overwrites the execution settings of the components it lists, and
nothing deletes the others.  Bids only look at listed components, but the
predicates about the quote asset read its target unit whether it is listed or not.
Two states that differ in their leftovers fare alike after the same
`startRebalance` as long as the target unit of the quote asset is not one of them.
-/

namespace SetProtocol.AuctionRebalanceModule

open Transaction PreciseUnitMath

variable {adapters : Adapters} {module sender component : Address}
variable {world other started : World} {plan : RebalancePlan}

def World.withExecutionInfo (world : World)
    (executionInfo : Address → AuctionExecutionParams) : World :=
  { world with executionInfo := executionInfo }

/-- The same SetToken, balances, time, permissions and raise percentage, and anything
left over from earlier rebalances. -/
structure SameOutset (world other : World) : Prop where
  toChain : other.toChain = world.toChain
  permissionInfo : other.permissionInfo = world.permissionInfo
  raiseTargetPercentage : other.rebalanceInfo.raiseTargetPercentage =
    world.rebalanceInfo.raiseTargetPercentage

/-- The settings agree where the running rebalance reads them. -/
structure AgreesWith (executionInfo : Address → AuctionExecutionParams) (world : World) :
    Prop where
  components : ∀ component ∈ world.rebalanceInfo.rebalanceComponents,
    executionInfo component = world.executionInfo component
  quoteAsset : (executionInfo world.rebalanceInfo.quoteAsset).targetUnit =
    (world.executionInfo world.rebalanceInfo.quoteAsset).targetUnit

/-- The same state but for settings that the running rebalance does not read. -/
def Concurs (world other : World) : Prop :=
  ∃ executionInfo, AgreesWith executionInfo world ∧
    other = world.withExecutionInfo executionInfo

/-! ## What reads the settings -/

variable {executionInfo : Address → AuctionExecutionParams}

theorem getNormalizedTargetUnit_of_agrees
    (hagrees : (executionInfo component).targetUnit =
      (world.executionInfo component).targetUnit) :
    getNormalizedTargetUnit (world.withExecutionInfo executionInfo) component =
      getNormalizedTargetUnit world component := by
  simp only [getNormalizedTargetUnit, World.withExecutionInfo, hagrees]

theorem AgreesWith.allTargetsMet (hagrees : AgreesWith executionInfo world) :
    allTargetsMet (world.withExecutionInfo executionInfo) = allTargetsMet world := by
  have hloop : ∀ components : List Address,
      (∀ component ∈ components, executionInfo component = world.executionInfo component) →
      allTargetsMetFrom (world.withExecutionInfo executionInfo) components =
        allTargetsMetFrom world components := by
    intro components hcomponents
    induction components with
    | nil => rfl
    | cons component rest ih =>
        have hunit := congrArg AuctionExecutionParams.targetUnit
          (hcomponents component List.mem_cons_self)
        have hunmet : targetUnmet (world.withExecutionInfo executionInfo) component =
            targetUnmet world component := by
          simp only [targetUnmet, getNormalizedTargetUnit_of_agrees hunit]
          rfl
        rw [allTargetsMetFrom, allTargetsMetFrom, hunmet,
          ih fun later hlater => hcomponents later (List.mem_cons_of_mem component hlater)]
  exact hloop _ hagrees.components

theorem AgreesWith.isQuoteAssetExcessOrAtTarget (hagrees : AgreesWith executionInfo world) :
    isQuoteAssetExcessOrAtTarget (world.withExecutionInfo executionInfo) =
      isQuoteAssetExcessOrAtTarget world := by
  have hquote := getNormalizedTargetUnit_of_agrees hagrees.quoteAsset
  unfold AuctionRebalanceModule.isQuoteAssetExcessOrAtTarget
  exact congrArg _ (funext fun currentUnit => congrArg (· >>= _) hquote)

theorem AgreesWith.canUnlockEarly (hagrees : AgreesWith executionInfo world) :
    canUnlockEarly (world.withExecutionInfo executionInfo) = canUnlockEarly world := by
  unfold AuctionRebalanceModule.canUnlockEarly
  rw [hagrees.allTargetsMet, hagrees.isQuoteAssetExcessOrAtTarget]
  rfl

theorem AgreesWith.canRaiseAssetTargets (hagrees : AgreesWith executionInfo world) :
    canRaiseAssetTargets (world.withExecutionInfo executionInfo) =
      canRaiseAssetTargets world := by
  have hquote : getNormalizedTargetUnit (world.withExecutionInfo executionInfo)
      (world.withExecutionInfo executionInfo).rebalanceInfo.quoteAsset =
        getNormalizedTargetUnit world world.rebalanceInfo.quoteAsset :=
    getNormalizedTargetUnit_of_agrees hagrees.quoteAsset
  unfold AuctionRebalanceModule.canRaiseAssetTargets
  rw [hagrees.allTargetsMet, hquote]
  rfl

theorem createBidInfo_of_agrees {componentQuantity quoteQuantityLimit : ℕ}
    {isSellAuction : Bool} (hagrees : executionInfo component = world.executionInfo component) :
    createBidInfo adapters module (world.withExecutionInfo executionInfo) component
        componentQuantity quoteQuantityLimit isSellAuction =
      createBidInfo adapters module world component componentQuantity quoteQuantityLimit
        isSellAuction := by
  have hunit := congrArg AuctionExecutionParams.targetUnit hagrees
  simp only [createBidInfo, calculateAuctionSizeAndDirection, getUnitsAndNotionalAmounts,
    getNormalizedTargetUnit_of_agrees hunit]
  simp only [World.withExecutionInfo, hagrees]
  rfl

/-! ## One call -/

theorem AgreesWith.concurs {next : World} (hagrees : AgreesWith executionInfo world)
    (hsettings : next.executionInfo = world.executionInfo)
    (hcomponents : next.rebalanceInfo.rebalanceComponents =
      world.rebalanceInfo.rebalanceComponents)
    (hquote : next.rebalanceInfo.quoteAsset = world.rebalanceInfo.quoteAsset) :
    Concurs next (next.withExecutionInfo executionInfo) := by
  refine ⟨executionInfo, ⟨?_, ?_⟩, rfl⟩
  · rw [hsettings, hcomponents]
    exact hagrees.components
  · rw [hsettings, hquote]
    exact hagrees.quoteAsset

theorem coupled_bid {order : BidOrder} (hagrees : AgreesWith executionInfo world) :
    Coupled Concurs (bid adapters module world sender order)
      (bid adapters module (world.withExecutionInfo executionInfo) sender order) := by
  unfold bid
  refine Coupled.bind_same fun _ _ => ?_
  refine Coupled.bind_same fun _ htargets => ?_
  have hlisted : order.component ∈ world.rebalanceInfo.rebalanceComponents := by
    simp only [validateBidTargets, bind_eq_ok, require_eq_ok,
      AddressArrayUtils.contains_eq_true] at htargets
    obtain ⟨_, -, _, -, _, hlisted, -⟩ := htargets
    exact hlisted
  rw [createBidInfo_of_agrees (hagrees.components _ hlisted)]
  refine Coupled.bind_same fun _ _ => Coupled.bind_same fun _ _ => ?_
  refine Coupled.bind_same fun _ _ => Coupled.bind_same fun updated _ => ?_
  exact coupled_pure (hagrees.concurs rfl rfl rfl)

theorem coupled_raiseAssetTargets (hagrees : AgreesWith executionInfo world) :
    Coupled Concurs (raiseAssetTargets world sender)
      (raiseAssetTargets (world.withExecutionInfo executionInfo) sender) := by
  unfold raiseAssetTargets
  rw [hagrees.canRaiseAssetTargets]
  refine Coupled.bind_same fun _ _ => Coupled.bind_same fun _ _ => ?_
  refine Coupled.bind_same fun _ _ => Coupled.bind_same fun _ _ => ?_
  refine Coupled.bind_same fun _ _ => Coupled.bind_same fun _ _ => ?_
  refine Coupled.bind_same fun _ _ => ?_
  exact coupled_pure (hagrees.concurs rfl rfl rfl)

theorem coupled_unlock (hagrees : AgreesWith executionInfo world) :
    Coupled Concurs (unlock module world)
      (unlock module (world.withExecutionInfo executionInfo)) := by
  unfold unlock
  rw [hagrees.canUnlockEarly]
  refine Coupled.bind_same fun _ _ => Coupled.bind_same fun _ _ => ?_
  refine Coupled.bind_same fun _ _ => Coupled.bind_same fun _ _ => ?_
  exact coupled_pure (hagrees.concurs rfl rfl rfl)

/-- A call that does not start another rebalance. -/
def Continues : RebalanceCall → Prop
  | .startRebalance _ _ => False
  | _ => True

theorem coupled_perform {call : RebalanceCall} (hcontinues : Continues call)
    (hconcurs : Concurs world other) :
    Coupled Concurs (perform adapters module call world)
      (perform adapters module call other) := by
  obtain ⟨executionInfo, hagrees, rfl⟩ := hconcurs
  cases call with
  | startRebalance sender plan => exact absurd hcontinues id
  | bid sender order => exact coupled_bid hagrees
  | raiseAssetTargets sender => exact coupled_raiseAssetTargets hagrees
  | unlock => exact coupled_unlock hagrees
  | setRaiseTargetPercentage sender percentage =>
      exact Coupled.bind_same fun _ _ => coupled_pure (hagrees.concurs rfl rfl rfl)
  | setBidderStatus sender bidders statuses =>
      exact Coupled.bind_same fun _ _ => Coupled.bind_same fun _ _ =>
        Coupled.bind_same fun _ _ => coupled_pure (hagrees.concurs rfl rfl rfl)
  | setAnyoneBid sender status =>
      exact Coupled.bind_same fun _ _ => coupled_pure (hagrees.concurs rfl rfl rfl)
  | mint issuer account quantity =>
      exact Coupled.bind_same fun _ _ => coupled_pure (hagrees.concurs rfl rfl rfl)
  | burn issuer account quantity =>
      exact Coupled.bind_same fun _ _ => coupled_pure (hagrees.concurs rfl rfl rfl)
  | transfer token source target quantity =>
      exact Coupled.bind_same fun _ _ => coupled_pure (hagrees.concurs rfl rfl rfl)
  | elapse seconds => exact coupled_pure (hagrees.concurs rfl rfl rfl)

/-! ## The start -/

/-- The loop writes the same settings over two different maps: afterwards they differ
at most where they did before, outside its entries. -/
theorem coupled_setExecutionInfo {setToken : SetToken}
    {entries : List (Address × AuctionExecutionParams)}
    (first second : Address → AuctionExecutionParams) :
    Coupled (fun settled resettled => ∀ component, resettled component = settled component ∨
        (component ∉ entries.map Prod.fst ∧ settled component = first component ∧
          resettled component = second component))
      (entries.foldlM (setExecutionInfo setToken) first)
      (entries.foldlM (setExecutionInfo setToken) second) := by
  induction entries generalizing first second with
  | nil =>
      exact coupled_pure fun component => Or.inr ⟨by simp, rfl, rfl⟩
  | cons entry entries ih =>
      rw [List.foldlM_cons, List.foldlM_cons, setExecutionInfo, setExecutionInfo]
      by_cases hexternal : Position.hasExternalPosition setToken entry.1 = false
      · simp only [hexternal, require, if_true, ok_bind]
        refine Coupled.mono (ih _ _) fun settled resettled hrest component => ?_
        obtain hsame | ⟨houtside, hfirst, hsecond⟩ := hrest component
        · exact Or.inl hsame
        · by_cases heq : component = entry.1
          · subst heq
            exact Or.inl (by rw [hfirst, hsecond, Function.update_self, Function.update_self])
          · rw [Function.update_of_ne heq] at hfirst hsecond
            exact Or.inr ⟨by simp [heq, houtside], hfirst, hsecond⟩
      · simp only [hexternal, require]
        exact Coupled.error _

theorem aggregate_eq_ok {components newComponents : List Address}
    {newParams oldParams : List AuctionExecutionParams}
    {aggregate : List Address × List AuctionExecutionParams}
    (hcall : aggregateComponentsAndAuctionParams adapters module components newComponents
      newParams oldParams = .ok aggregate) :
    aggregate.1 = components ++ newComponents ∧
      aggregate.1.length = aggregate.2.length := by
  simp only [aggregateComponentsAndAuctionParams, concatAndValidateAuctionParams,
    AddressArrayUtils.extend_eq, bind_eq_ok, require_eq_ok, pure_eq_ok, Except.ok.injEq,
    exists_eq_left'] at hcall
  obtain ⟨_, hnew, _, hold, _, -, _, -, _, ⟨_, -, _, -, rfl⟩, rfl⟩ := hcall
  refine ⟨rfl, ?_⟩
  rw [List.length_append, List.length_append, hold, hnew]

/-- The second state starts as well, and the settings differ only where they did before
and the rebalance lists nothing. -/
theorem startRebalance_sameOutset (hsame : SameOutset world other)
    (hstart : startRebalance adapters module world sender plan = .ok started) :
    ∃ executionInfo,
      startRebalance adapters module other sender plan =
        .ok (started.withExecutionInfo executionInfo) ∧
      started.rebalanceInfo.quoteAsset = plan.quoteAsset ∧
      started.rebalanceInfo.rebalanceComponents =
        world.setToken.components ++ plan.newComponents ∧
      ∀ component, executionInfo component = started.executionInfo component ∨
        (component ∉ started.rebalanceInfo.rebalanceComponents ∧
          started.executionInfo component = world.executionInfo component ∧
          executionInfo component = other.executionInfo component) := by
  obtain ⟨chain, settings, permissions, info⟩ := other
  obtain ⟨hchain, hpermissions, hraise⟩ := hsame
  dsimp only at hchain hpermissions hraise
  subst hchain hpermissions
  simp only [startRebalance, bind_eq_ok, pure_eq_ok] at hstart ⊢
  obtain ⟨_, hmanager, setToken, hlock, aggregate, haggregate, settled, hsettled, rfl⟩ := hstart
  obtain ⟨hcomponents, hlength⟩ := aggregate_eq_ok haggregate
  obtain ⟨resettled, hresettled, hagree⟩ :=
    (coupled_setExecutionInfo world.executionInfo settings).of_ok hsettled
  have hkeys : (aggregate.1.zip aggregate.2).map Prod.fst = aggregate.1 :=
    List.map_fst_zip hlength.le
  rw [hkeys] at hagree
  have hkept : setToken.components = world.setToken.components := by
    split at hlock
    · simp only [SetToken.lock, bind_eq_ok, pure_eq_ok] at hlock
      obtain ⟨_, -, _, -, rfl⟩ := hlock
      rfl
    · cases hlock
      rfl
  refine ⟨resettled, ⟨(), hmanager, setToken, hlock, aggregate, haggregate, resettled,
    hresettled, ?_⟩, rfl, hkept ▸ hcomponents, hagree⟩
  simp [World.withExecutionInfo, hraise, World.withChain, Chain.withSetToken]

/-! ## Runs -/

/-- Whatever sequence of calls follows, the two states have the same SetToken, and the
next call returns in both or in neither. -/
def FaresAlike (adapters : Adapters) (module : Address) (first second : World) : Prop :=
  ∀ calls : List RebalanceCall, (∀ call ∈ calls, Continues call) →
    (run (perform adapters module) calls second).setToken =
        (run (perform adapters module) calls first).setToken ∧
      ∀ call, Continues call →
        ((∃ next, perform adapters module call
            (run (perform adapters module) calls second) = .ok next) ↔
          ∃ next, perform adapters module call
            (run (perform adapters module) calls first) = .ok next)

theorem Concurs.faresAlike (hconcurs : Concurs world other) :
    FaresAlike adapters module world other := by
  intro calls hcontinues
  have hstep : ∀ call ∈ calls, ∀ world other, Concurs world other →
      Coupled Concurs (perform adapters module call world)
        (perform adapters module call other) :=
    fun call hmem _ _ => coupled_perform (hcontinues call hmem)
  have hreached := run_related hstep hconcurs
  refine ⟨?_, fun call hcall => ?_⟩
  · obtain ⟨_, -, hother⟩ := hreached
    rw [hother]
    rfl
  · exact (coupled_perform hcall hreached).ok_iff.symm

/-- The rebalance sets a target for its quote asset, or both states hold the same one. -/
def QuoteTargetSettled (world other : World) (plan : RebalancePlan) : Prop :=
  plan.quoteAsset ∈ world.setToken.components ∨ plan.quoteAsset ∈ plan.newComponents ∨
    (other.executionInfo plan.quoteAsset).targetUnit =
      (world.executionInfo plan.quoteAsset).targetUnit

/-- After the same start, states that differ in what earlier rebalances left behind fare
alike over every sequence of calls, if no leftover is the target of the quote asset. -/
theorem faresAlike_of_settled (hsame : SameOutset world other)
    (hstart : startRebalance adapters module world sender plan = .ok started)
    (hsettled : QuoteTargetSettled world other plan) :
    ∃ restarted, startRebalance adapters module other sender plan = .ok restarted ∧
      FaresAlike adapters module started restarted := by
  obtain ⟨executionInfo, hrestart, hquote, hcomponents, hagree⟩ :=
    startRebalance_sameOutset hsame hstart
  refine ⟨_, hrestart, Concurs.faresAlike ⟨executionInfo, ⟨?_, ?_⟩, rfl⟩⟩
  · intro component hlisted
    exact (hagree component).resolve_right fun houtside => houtside.1 hlisted
  · obtain heq | ⟨houtside, hfirst, hsecond⟩ := hagree started.rebalanceInfo.quoteAsset
    · rw [heq]
    · rw [hcomponents, hquote, List.mem_append, not_or] at houtside
      rw [hfirst, hsecond, hquote]
      exact (hsettled.resolve_left houtside.1).resolve_left houtside.2

/-- A short rebalance that gives asset 11 a target and ends without it. -/
def earlierCalls : List (LifecycleCall 5) :=
  [.initializeModule 7, .rebalance (.startRebalance 7
    { lockedPlan 10 with
      newComponents := [11]
      newComponentsAuctionParams := [⟨1000, "constant", []⟩]
      shouldLockSetToken := false
      rebalanceDuration := 0 })]

/-- The state after initialization, without and with that rebalance. -/
def freshWorld : World :=
  run (performLifecycle quietAdapters 5) [.initializeModule 7] pendingWorld

def usedWorld : World := run (performLifecycle quietAdapters 5) earlierCalls pendingWorld

theorem sameOutset_usedWorld : SameOutset freshWorld usedWorld := ⟨rfl, rfl, rfl⟩

theorem faresAlike_of_settled_quote_component :
    ∃ started restarted,
      startRebalance quietAdapters 5 freshWorld 7 (lockedPlan 10) = .ok started ∧
      startRebalance quietAdapters 5 usedWorld 7 (lockedPlan 10) = .ok restarted ∧
      FaresAlike quietAdapters 5 started restarted := by
  have hstart : ∃ started,
      startRebalance quietAdapters 5 freshWorld 7 (lockedPlan 10) = .ok started := ⟨_, rfl⟩
  obtain ⟨started, hstart⟩ := hstart
  obtain ⟨restarted, hrestart, halike⟩ := faresAlike_of_settled sameOutset_usedWorld hstart
    (Or.inl (by decide))
  exact ⟨started, restarted, hstart, hrestart, halike⟩

/-- Quoted in asset 11, the rebalance can be unlocked after its duration only where the
earlier one left a target. -/
theorem leftover_target_decides_unlock :
    SameOutset freshWorld usedWorld ∧ ∃ started restarted,
      startRebalance quietAdapters 5 freshWorld 7 (lockedPlan 11) = .ok started ∧
      startRebalance quietAdapters 5 usedWorld 7 (lockedPlan 11) = .ok restarted ∧
      ¬FaresAlike quietAdapters 5 started restarted := by
  refine ⟨sameOutset_usedWorld, _, _, rfl, rfl, fun halike => ?_⟩
  obtain ⟨-, hunlock⟩ := halike [.elapse 100] (by simp [Continues])
  obtain ⟨next, hnext, -⟩ := returns_iff.mp (by decide +kernel :
    Returns (perform quietAdapters 5 .unlock (run (perform quietAdapters 5)
      [.startRebalance 7 (lockedPlan 11), .elapse 100] usedWorld)) fun _ => True)
  obtain ⟨unlocked, hunlocked⟩ := (hunlock .unlock trivial).mp ⟨next, hnext⟩
  have hreverts := reverts_iff.mp (by decide +kernel :
    Reverts (perform quietAdapters 5 .unlock (run (perform quietAdapters 5)
      [.startRebalance 7 (lockedPlan 11), .elapse 100] freshWorld))
      "SafeMath: subtraction overflow")
  exact absurd (hunlocked.symm.trans hreverts) (by simp)

end SetProtocol.AuctionRebalanceModule
