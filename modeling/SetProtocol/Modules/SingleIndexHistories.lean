import SetProtocol.Modules.SingleIndexTrades

/-!
# Histories of the single index module

From its deployment the module never trades WETH as a component and never changes its index.
During a rebalance anybody trades, the manager changes settings, and shares come and go; the
units stay between what they were and what they should become.
-/

namespace SetProtocol.SingleIndexModule

open Transaction PreciseUnitMath
open GeneralIndexModule (Caller)

variable {P : Type}

/-- Everything that happens to the module, and other transactions. -/
inductive Call
  | startRebalance (sender : Address) (plan : RebalancePlan)
  | trade (caller : Caller) (component : Address)
  | tradeRemainingWETH (caller : Caller) (component : Address)
  | raiseAssetTargets (sender : Address)
  | setTradeMaximums (sender : Address) (components : List Address) (tradeMaximums : List ℕ)
  | setExchanges (sender : Address) (components : List Address) (exchanges : List ℕ)
  | setCoolOffPeriods (sender : Address) (components : List Address)
      (coolOffPeriods : List ℕ)
  | updateTraderStatus (sender : Address) (traders : List Address) (statuses : List Bool)
  | updateAnyoneTrade (sender : Address) (status : Bool)
  | initializeModule (sender : Address)
  | addModule (sender : Address)
  | removeModule (sender : Address)
  | other (transaction : Chain → Outcome Chain)

/-- `removeModule` of the SetToken, with the module's callback. -/
def leaveSetToken (module : Address) (world : World P) (sender : Address) :
    Outcome (World P) := do
  world.setToken.validateRemoveModule sender module
  let called := removeModule world
  let setToken ← called.setToken.forgetModule module
  pure (called.withChain (called.withSetToken setToken))

def perform (exchanges : Exchanges P) (module : Address) :
    Call → World P → Outcome (World P)
  | .startRebalance sender plan, world => startRebalance exchanges module world sender plan
  | .trade caller component, world => trade exchanges module world caller component
  | .tradeRemainingWETH caller component, world =>
      tradeRemainingWETH exchanges module world caller component
  | .raiseAssetTargets sender, world => raiseAssetTargets exchanges world sender
  | .setTradeMaximums sender components tradeMaximums, world =>
      setTradeMaximums module world sender components tradeMaximums
  | .setExchanges sender components exchanges, world =>
      setExchanges module world sender components exchanges
  | .setCoolOffPeriods sender components coolOffPeriods, world =>
      setCoolOffPeriods module world sender components coolOffPeriods
  | .updateTraderStatus sender traders statuses, world =>
      updateTraderStatus module world sender traders statuses
  | .updateAnyoneTrade sender status, world => updateAnyoneTrade module world sender status
  | .initializeModule sender, world => initializeModule module world sender
  | .addModule sender, world => do
      let setToken ← world.setToken.addModule world.controller sender module
      pure (world.withChain (world.withSetToken setToken))
  | .removeModule sender, world => leaveSetToken module world sender
  | .other transaction, world => do
      let chain ← transaction world.toChain
      pure (world.withChain chain)

variable {exchanges : Exchanges P} {module component : Address} {world next : World P}

/-! ## The life of the module -/

/-- Only settings of the manager change. -/
structure SettingsOnly (world next : World P) : Prop where
  chain : next.toChain = world.toChain
  rebalance : SameRebalance world next
  index : next.index = world.index

theorem SameRebalance.refl (world : World P) : SameRebalance world world :=
  ⟨fun _ => rfl, rfl, rfl⟩

theorem SameRebalance.trans {middle : World P} (hfirst : SameRebalance world middle)
    (hsecond : SameRebalance middle next) : SameRebalance world next :=
  ⟨fun token => (hsecond.targetUnits token).trans (hfirst.targetUnits token),
    hsecond.rebalanceComponents.trans hfirst.rebalanceComponents,
    hsecond.positionMultiplier.trans hfirst.positionMultiplier⟩

theorem settingsOnly_withAssetInfo {info : AssetTradeInfo}
    (htarget : info.targetUnit = (world.assetInfo component).targetUnit) :
    SettingsOnly world (world.withAssetInfo component info) := by
  refine ⟨rfl, ⟨fun token => ?_, rfl, rfl⟩, rfl⟩
  by_cases heq : token = component
  · subst heq
    simpa [World.withAssetInfo] using htarget
  · simp [World.withAssetInfo, heq]

theorem settingsOnly_setAssetInfo {sender : Address} {components : List Address}
    {data : List ℕ} {set : World P → Address × ℕ → Outcome (World P)}
    (hset : ∀ state entry after, set state entry = .ok after → SettingsOnly state after)
    (hcall : setAssetInfo module world sender components data set = .ok next) :
    SettingsOnly world next := by
  simp only [setAssetInfo, bind_eq_ok] at hcall
  obtain ⟨_, -, _, -, hfold⟩ := hcall
  refine @foldlM_preserves _ _ _ (SettingsOnly world) _ _
    (fun entry _ state after hstate hturn => ?_) _ _
    ⟨rfl, SameRebalance.refl world, rfl⟩ hfold
  have hstep := hset state entry after hturn
  exact ⟨hstep.chain.trans hstate.chain, hstate.rebalance.trans hstep.rebalance,
    hstep.index.trans hstate.index⟩

/-- The setters. -/
def IsSetting : Call → Prop
  | .setTradeMaximums .. | .setExchanges .. | .setCoolOffPeriods .. => True
  | .updateTraderStatus .. | .updateAnyoneTrade .. => True
  | _ => False

theorem settingsOnly_of_setting {call : Call} (hsetting : IsSetting call)
    (hcall : perform exchanges module call world = .ok next) : SettingsOnly world next := by
  cases call with
  | setTradeMaximums sender components tradeMaximums =>
      refine settingsOnly_setAssetInfo (fun state entry after hturn => ?_) hcall
      obtain rfl := Except.ok.inj hturn
      exact settingsOnly_withAssetInfo rfl
  | setExchanges sender components exchanges =>
      refine settingsOnly_setAssetInfo (fun state entry after hturn => ?_) hcall
      simp only [bind_eq_ok, pure_eq_ok] at hturn
      obtain ⟨_, -, rfl⟩ := hturn
      exact settingsOnly_withAssetInfo rfl
  | setCoolOffPeriods sender components coolOffPeriods =>
      refine settingsOnly_setAssetInfo (fun state entry after hturn => ?_) hcall
      obtain rfl := Except.ok.inj hturn
      exact settingsOnly_withAssetInfo rfl
  | updateTraderStatus sender traders statuses =>
      simp only [perform, updateTraderStatus, bind_eq_ok, pure_eq_ok] at hcall
      obtain ⟨_, -, _, -, _, -, _, -, _, -, rfl⟩ := hcall
      exact ⟨rfl, ⟨fun _ => rfl, rfl, rfl⟩, rfl⟩
  | updateAnyoneTrade sender status =>
      simp only [perform, updateAnyoneTrade, bind_eq_ok, pure_eq_ok] at hcall
      obtain ⟨_, -, rfl⟩ := hcall
      exact ⟨rfl, ⟨fun _ => rfl, rfl, rfl⟩, rfl⟩
  | _ => exact hsetting.elim

theorem own_of_trade {caller : Caller}
    (hcall : trade exchanges module world caller component = .ok next) :
    next.rebalanceComponents = world.rebalanceComponents ∧ next.index = world.index := by
  simp only [trade, bind_eq_ok, pure_eq_ok] at hcall
  obtain ⟨_, -, _, -, _, -, ⟨isBuy, quantity⟩, -, traded, htraded, rfl⟩ := hcall
  have hframe : ∃ chain protocols,
      traded = { world.withChain chain with protocols := protocols } := by
    split at htraded
    · simp only [buyUnderweight, bind_eq_ok, pure_eq_ok] at htraded
      obtain ⟨_, hexchanged, rfl⟩ := htraded
      exact exchangeTokens_frame hexchanged
    · simp only [sellOverweight, bind_eq_ok, pure_eq_ok] at htraded
      obtain ⟨_, hexchanged, rfl⟩ := htraded
      exact exchangeTokens_frame hexchanged
  obtain ⟨chain, protocols, rfl⟩ := hframe
  exact ⟨rfl, rfl⟩

theorem own_of_tradeRemainingWETH {caller : Caller}
    (hcall : tradeRemainingWETH exchanges module world caller component = .ok next) :
    next.rebalanceComponents = world.rebalanceComponents ∧ next.index = world.index := by
  simp only [tradeRemainingWETH, bind_eq_ok, pure_eq_ok] at hcall
  obtain ⟨_, -, _, -, _, -, _, -, _, -, _, -, _, hexchanged, _, -, rfl⟩ := hcall
  obtain ⟨chain, protocols, hframe⟩ := exchangeTokens_frame hexchanged
  rw [hframe]
  exact ⟨rfl, rfl⟩

/-- What no call but `startRebalance` and `initialize` changes. -/
def SetsUp : Call → Prop
  | .startRebalance .. | .initializeModule .. => True
  | _ => False

theorem own_of_perform {call : Call} (hsetsUp : ¬SetsUp call)
    (hcall : perform exchanges module call world = .ok next) :
    next.rebalanceComponents = world.rebalanceComponents ∧ next.index = world.index := by
  by_cases hsetting : IsSetting call
  · have hsettings := settingsOnly_of_setting hsetting hcall
    exact ⟨hsettings.rebalance.rebalanceComponents, hsettings.index⟩
  cases call with
  | startRebalance sender plan => exact absurd trivial hsetsUp
  | initializeModule sender => exact absurd trivial hsetsUp
  | trade caller component => exact own_of_trade hcall
  | tradeRemainingWETH caller component => exact own_of_tradeRemainingWETH hcall
  | raiseAssetTargets sender =>
      simp only [perform, raiseAssetTargets, bind_eq_ok, pure_eq_ok] at hcall
      obtain ⟨_, -, _, -, _, -, _, -, _, -, rfl⟩ := hcall
      exact ⟨rfl, rfl⟩
  | addModule sender =>
      simp only [perform, bind_eq_ok, pure_eq_ok] at hcall
      obtain ⟨_, -, rfl⟩ := hcall
      exact ⟨rfl, rfl⟩
  | removeModule sender =>
      simp only [perform, leaveSetToken, removeModule, bind_eq_ok, pure_eq_ok] at hcall
      obtain ⟨_, -, _, -, rfl⟩ := hcall
      exact ⟨rfl, rfl⟩
  | other transaction =>
      simp only [perform, bind_eq_ok, pure_eq_ok] at hcall
      obtain ⟨_, -, rfl⟩ := hcall
      exact ⟨rfl, rfl⟩
  | setTradeMaximums sender components tradeMaximums => exact absurd trivial hsetting
  | setExchanges sender components exchanges => exact absurd trivial hsetting
  | setCoolOffPeriods sender components coolOffPeriods => exact absurd trivial hsetting
  | updateTraderStatus sender traders statuses => exact absurd trivial hsetting
  | updateAnyoneTrade sender status => exact absurd trivial hsetting

/-- The components of a rebalance are distinct, and WETH is none of them. -/
structure Listed (weth : Address) (world : World P) : Prop where
  nodup : world.rebalanceComponents.Nodup
  noWETH : weth ∉ world.rebalanceComponents

theorem noWETH_of_setTargetUnits {weth : Address} {entries : List (Address × ℕ)}
    {assetInfo after : Address → AssetTradeInfo}
    (hfold : entries.foldlM (setTargetUnit weth) assetInfo = .ok after) :
    ∀ entry ∈ entries, entry.1 ≠ weth := by
  induction entries generalizing assetInfo with
  | nil => simp
  | cons entry entries ih =>
      simp only [List.foldlM_cons, setTargetUnit, bind_eq_ok, require_eq_ok] at hfold
      obtain ⟨_, ⟨_, hother, -⟩, hrest⟩ := hfold
      exact List.forall_mem_cons.mpr ⟨hother, ih hrest⟩

/-- A rebalance starts only when the index holds no WETH position. -/
theorem startRebalance_listed {sender : Address} {plan : RebalancePlan}
    (hcall : startRebalance exchanges module world sender plan = .ok next) :
    Listed exchanges.weth next ∧ next.index = world.index ∧
      next.rebalanceComponents = world.setToken.components ++ plan.newComponents := by
  simp only [startRebalance, AddressArrayUtils.extend_eq, ok_bind, bind_eq_ok, require_eq_ok,
    pure_eq_ok] at hcall
  obtain ⟨_, -, _, hnew, _, hold, _, hduplicate, _, rfl, assetInfo, hfold, rfl⟩ := hcall
  refine ⟨⟨(AddressArrayUtils.hasDuplicate_eq_ok_false.mp hduplicate).2, fun hmem => ?_⟩, rfl,
    rfl⟩
  have hlengths : (world.setToken.components ++ plan.newComponents).length ≤
      (plan.oldComponentsTargetUnits ++ plan.newComponentsTargetUnits).length := by
    rw [List.length_append, List.length_append, hold, hnew]
  rw [← List.map_fst_zip hlengths] at hmem
  obtain ⟨entry, hentry, hweth⟩ := List.mem_map.mp hmem
  exact noWETH_of_setTargetUnits hfold entry hentry hweth

theorem initializeModule_eq_ok {sender : Address}
    (hcall : initializeModule module world sender = .ok next) :
    world.index = zeroAddress ∧ next.rebalanceComponents = world.rebalanceComponents := by
  simp only [initializeModule, bind_eq_ok, require_eq_ok, pure_eq_ok] at hcall
  obtain ⟨_, -, _, -, _, hfree, _, -, _, -, _, -, rfl⟩ := hcall
  exact ⟨hfree, rfl⟩

theorem perform_listed {call : Call} (hlisted : Listed exchanges.weth world)
    (hcall : perform exchanges module call world = .ok next) :
    Listed exchanges.weth next := by
  by_cases hsetsUp : SetsUp call
  · cases call with
    | startRebalance sender plan => exact (startRebalance_listed hcall).1
    | initializeModule sender =>
        have hsame := (initializeModule_eq_ok hcall).2
        exact ⟨hsame ▸ hlisted.nodup, hsame ▸ hlisted.noWETH⟩
    | _ => exact hsetsUp.elim
  · have hsame := (own_of_perform hsetsUp hcall).1
    exact ⟨hsame ▸ hlisted.nodup, hsame ▸ hlisted.noWETH⟩

theorem perform_index {call : Call} (hindex : world.index ≠ zeroAddress)
    (hcall : perform exchanges module call world = .ok next) : next.index = world.index := by
  by_cases hsetsUp : SetsUp call
  · cases call with
    | startRebalance sender plan => exact (startRebalance_listed hcall).2.1
    | initializeModule sender => exact absurd (initializeModule_eq_ok hcall).1 hindex
    | _ => exact hsetsUp.elim
  · exact (own_of_perform hsetsUp hcall).2

variable {chain : Chain} {protocols : P}

theorem listed_of_history (calls : List Call) :
    Listed exchanges.weth (run (perform exchanges module) calls (deploy chain protocols)) :=
  run_preserves (Listed exchanges.weth) (fun _ _ _ _ => perform_listed)
    ⟨List.nodup_nil, List.not_mem_nil⟩

/-- Whatever happens to a deployed module: the components of a rebalance are distinct and WETH
is none of them, the index never changes, and there is no second `initialize`, not even after
the manager has removed the module and added it again. -/
theorem lifecycle_of_history (calls later : List Call) :
    let world := run (perform exchanges module) calls (deploy chain protocols)
    let final := run (perform exchanges module) later world
    (world.rebalanceComponents.Nodup ∧ exchanges.weth ∉ world.rebalanceComponents) ∧
      (world.index ≠ zeroAddress → final.index = world.index ∧
        ∀ sender, ∃ reason, initializeModule module final sender = .error reason) := by
  intro world final
  have hlisted : Listed exchanges.weth world := listed_of_history calls
  refine ⟨⟨hlisted.nodup, hlisted.noWETH⟩, fun hindex => ?_⟩
  have hsame : final.index = world.index :=
    run_preserves (fun state : World P => state.index = world.index)
      (fun _ _ state next hstate hcall =>
        (perform_index (by rw [hstate]; exact hindex) hcall).trans hstate) rfl
  refine ⟨hsame, fun sender => ?_⟩
  cases hcall : initializeModule module final sender with
  | error reason => exact ⟨reason, rfl⟩
  | ok next => exact absurd (hsame ▸ (initializeModule_eq_ok hcall).1) hindex

/-! ## One rebalance -/

/-- A transaction of others, such as an issuance or a transfer, that leaves the units and at
least one whole share. -/
structure LeavesUnits (transaction : Chain → Outcome Chain) : Prop where
  bookkept : ∀ chain next, transaction chain = .ok next → Bookkept chain.setToken →
    Bookkept next.setToken
  positionMultiplier : ∀ chain next, transaction chain = .ok next →
    next.setToken.positionMultiplier = chain.setToken.positionMultiplier
  units : ∀ chain next, transaction chain = .ok next → ∀ token,
    next.setToken.defaultRealUnit token = chain.setToken.defaultRealUnit token
  supply : ∀ chain next, transaction chain = .ok next →
    preciseUnit ≤ chain.setToken.totalSupply → preciseUnit ≤ next.setToken.totalSupply
  tracked : ∀ chain next, transaction chain = .ok next → AllTracked chain → AllTracked next

/-- No new targets, and no raised ones. -/
def WithinRebalance : Call → Prop
  | .startRebalance .. | .raiseAssetTargets .. | .initializeModule .. => False
  | .other transaction => LeavesUnits transaction
  | _ => True

/-- How much of the unit of a component a call may round away. -/
def rounding (component : Address) : Call → World P → ℕ
  | .trade _ traded, _ => if traded = component then 2 else 0
  | .tradeRemainingWETH _ traded, _ => if traded = component then 2 else 0
  | _, _ => 0

/-- What a call of a rebalance does to a component. -/
structure Progress (component : Address) (loss : ℕ) (world next : World P) : Prop where
  tradable : Tradable next
  indexMultiplier : next.setToken.positionMultiplier = world.setToken.positionMultiplier
  rebalance : SameRebalance world next
  le_max : next.setToken.defaultRealUnit component ≤
    max (world.setToken.defaultRealUnit component) (targetUnit world component)
  min_le : min (world.setToken.defaultRealUnit component) (targetUnit world component) ≤
    next.setToken.defaultRealUnit component + loss
  others : component ∉ world.rebalanceComponents →
    next.setToken.defaultRealUnit component = world.setToken.defaultRealUnit component

theorem Progress.of_same {loss : ℕ} (htradable : Tradable next)
    (hmultiplier : next.setToken.positionMultiplier = world.setToken.positionMultiplier)
    (hrebalance : SameRebalance world next)
    (hunit : next.setToken.defaultRealUnit component =
      world.setToken.defaultRealUnit component) : Progress component loss world next where
  tradable := htradable
  indexMultiplier := hmultiplier
  rebalance := hrebalance
  le_max := hunit.trans_le (le_max_left _ _)
  min_le := (min_le_left _ _).trans (hunit.symm.trans_le (Nat.le_add_right _ _))
  others := fun _ => hunit

theorem Progress.of_traded {weth traded : Address} (htraded : Traded weth traded world next)
    (hmem : traded ∈ world.rebalanceComponents) (hweth : component ≠ weth) :
    Progress component (if traded = component then 2 else 0) world next := by
  by_cases heq : traded = component
  · subst heq
    rw [if_pos rfl]
    exact ⟨htraded.tradable, htraded.indexMultiplier, htraded.rebalance, htraded.le_max,
      htraded.min_le, fun habsent => absurd hmem habsent⟩
  · exact Progress.of_same htraded.tradable htraded.indexMultiplier htraded.rebalance
      (htraded.others component (fun hsame => heq hsame.symm) hweth)

/-- The SetToken's list of modules changes, and nothing that a rebalance looks at. -/
theorem Progress.of_modules {setToken : SetToken} {loss : ℕ} (htradable : Tradable world)
    (hframe : ∃ modules moduleStates, setToken = { world.setToken with
      modules := modules, moduleStates := moduleStates }) :
    Progress component loss world (world.withChain (world.withSetToken setToken)) := by
  obtain ⟨modules, moduleStates, rfl⟩ := hframe
  refine Progress.of_same ⟨?_, htradable.scale, htradable.supply, htradable.tracked⟩ rfl
    ⟨fun _ => rfl, rfl, rfl⟩ rfl
  exact htradable.bookkept.of_same_positions rfl rfl rfl

theorem mem_of_validated (hcall : validateTradeParameters world component = .ok ()) :
    component ∈ world.rebalanceComponents := by
  simp only [validateTradeParameters, bind_eq_ok, require_eq_ok,
    AddressArrayUtils.contains_eq_true] at hcall
  obtain ⟨_, hmem, -⟩ := hcall
  exact hmem

theorem perform_progress {call : Call} (hfills : FillsExactly exchanges)
    (hwithin : WithinRebalance call) (htradable : Tradable world)
    (hlisted : Listed exchanges.weth world) (hweth : component ≠ exchanges.weth)
    (hcall : perform exchanges module call world = .ok next) :
    Progress component (rounding component call world) world next := by
  by_cases hsetting : IsSetting call
  · obtain ⟨hchain, hrebalance, -⟩ := settingsOnly_of_setting hsetting hcall
    have hsetToken : next.setToken = world.setToken :=
      congrArg (fun chain : Chain => chain.setToken) hchain
    refine Progress.of_same ⟨?_, ?_, ?_, ?_⟩ (by rw [hsetToken]) hrebalance (by rw [hsetToken])
    · exact hsetToken ▸ htradable.bookkept
    · exact hsetToken ▸ htradable.scale
    · exact hsetToken ▸ htradable.supply
    · exact hchain ▸ htradable.tracked
  cases call with
  | trade caller traded =>
      have htraded := trade_traded hfills htradable hlisted.noWETH hcall
      simp only [perform, trade, bind_eq_ok] at hcall
      obtain ⟨_, -, _, -, _, hvalidated, -⟩ := hcall
      exact Progress.of_traded htraded (mem_of_validated hvalidated) hweth
  | tradeRemainingWETH caller traded =>
      have htraded := tradeRemainingWETH_traded htradable hlisted.noWETH hcall
      simp only [perform, tradeRemainingWETH, bind_eq_ok] at hcall
      obtain ⟨_, -, _, -, _, -, _, -, _, hvalidated, -⟩ := hcall
      exact Progress.of_traded htraded (mem_of_validated hvalidated) hweth
  | addModule sender =>
      simp only [perform, SetToken.addModule, bind_eq_ok, pure_eq_ok] at hcall
      obtain ⟨_, ⟨_, -, _, -, _, -, rfl⟩, rfl⟩ := hcall
      exact Progress.of_modules htradable ⟨_, _, rfl⟩
  | removeModule sender =>
      simp only [perform, leaveSetToken, removeModule, SetToken.forgetModule, bind_eq_ok,
        pure_eq_ok] at hcall
      obtain ⟨_, -, _, ⟨_, -, rfl⟩, rfl⟩ := hcall
      exact Progress.of_modules htradable ⟨_, _, rfl⟩
  | other transaction =>
      simp only [perform, bind_eq_ok, pure_eq_ok] at hcall
      obtain ⟨chain, htransaction, rfl⟩ := hcall
      have hmultiplier := hwithin.positionMultiplier _ _ htransaction
      refine Progress.of_same ⟨hwithin.bookkept _ _ htransaction htradable.bookkept, ?_,
        hwithin.supply _ _ htransaction htradable.supply,
        hwithin.tracked _ _ htransaction htradable.tracked⟩ hmultiplier
        ⟨fun _ => rfl, rfl, rfl⟩ (hwithin.units _ _ htransaction component)
      exact hmultiplier.trans_le htradable.scale
  | startRebalance sender plan => exact hwithin.elim
  | raiseAssetTargets sender => exact hwithin.elim
  | initializeModule sender => exact hwithin.elim
  | setTradeMaximums sender components tradeMaximums => exact absurd trivial hsetting
  | setExchanges sender components exchanges => exact absurd trivial hsetting
  | setCoolOffPeriods sender components coolOffPeriods => exact absurd trivial hsetting
  | updateTraderStatus sender traders statuses => exact absurd trivial hsetting
  | updateAnyoneTrade sender status => exact absurd trivial hsetting

theorem Progress.target (hprogress : Progress component amount world next) :
    targetUnit next component = targetUnit world component := by
  rw [targetUnit, hprogress.rebalance.targetUnits, hprogress.indexMultiplier,
    hprogress.rebalance.positionMultiplier, targetUnit]

theorem Progress.trans {middle : World P} {more : ℕ}
    (hfirst : Progress component amount world middle)
    (hsecond : Progress component more middle next) :
    Progress component (amount + more) world next := by
  have htarget := hfirst.target
  have hupper := hsecond.le_max
  have hlower := hsecond.min_le
  have hbelow := hfirst.le_max
  have habove := hfirst.min_le
  rw [htarget] at hupper hlower
  refine ⟨hsecond.tradable, hsecond.indexMultiplier.trans hfirst.indexMultiplier,
    hfirst.rebalance.trans hsecond.rebalance, by omega, by omega, fun habsent => ?_⟩
  have hstill : component ∉ middle.rebalanceComponents := by
    rw [hfirst.rebalance.rebalanceComponents]
    exact habsent
  exact (hsecond.others hstill).trans (hfirst.others habsent)

/-- Exchanges that swap every token for every other one at par. -/
def parExchanges : Exchanges Unit where
  weth := 30
  uniswapRouter := 40
  sushiswapRouter := 41
  balancerProxy := 42
  execute _ tradeCallData _ :=
    match tradeCallData with
    | .uniswapLike _ amount _ _ _ _ => .ok ((), ⟨amount, amount⟩)
    | .balancer _ _ _ amount _ _ => .ok ((), ⟨amount, amount⟩)

theorem fillsExactly_parExchanges : FillsExactly parExchanges := by
  intro exchangeAddress tradeCallData protocols after exchanged hexecuted
  cases tradeCallData <;>
    · obtain ⟨-, rfl⟩ := Prod.mk.inj (Except.ok.inj hexecuted)
      exact ⟨fun _ => rfl, fun _ => rfl⟩

/-- One share of a hundred units of one component and of five of another. -/
def indexChain : Chain where
  controller := { Controller.deploy 1 2 with
    isSet := fun setToken => setToken == 9
    isModule := fun module => module == 5 }
  setTokenAddress := 9
  setToken := { SetToken.deploy [10, 12] [100, 5] [5] 7 with totalSupply := 10 ^ 18 }
  balances := fun token holder =>
    if holder = 9 then (if token = 10 then 100 else if token = 12 then 5 else 0) else 0
  timestamp := 50

/-- Half of the first component is to be sold, and the other one quadrupled. -/
def indexSetup : List Call :=
  [.initializeModule 7, .startRebalance 7 ⟨[], [], [50, 20], 10 ^ 18⟩,
    .setExchanges 7 [10, 12] [1, 3], .setTradeMaximums 7 [10, 12] [100, 10],
    .updateAnyoneTrade 7 true]

def indexTrades : List Call :=
  [.trade ⟨3, 3⟩ 10, .trade ⟨4, 4⟩ 12,
    .other fun chain => .ok { chain with timestamp := chain.timestamp + 600 },
    .tradeRemainingWETH ⟨3, 3⟩ 12, .trade ⟨3, 3⟩ 12]

theorem tradable_indexSetup :
    Tradable (run (perform parExchanges 5) indexSetup (deploy indexChain ())) := by
  have hdeployed : Bookkept (SetToken.deploy [10, 12] [100, 5] [5] 7) :=
    SetTokenCreator.bookkept_deploy (by decide) (by decide) (by decide)
  have hkept : Bookkept
      (run (perform parExchanges 5) indexSetup (deploy indexChain ())).setToken :=
    hdeployed.of_same_positions rfl rfl rfl
  refine ⟨hkept, by decide +kernel, by decide +kernel, fun token => ?_⟩
  by_cases hmem : token ∈ [10, 12]
  · revert token
    decide +kernel
  · have hunit := hkept.defaultRealUnit_of_not_mem hmem
    rw [hunit, Nat.mul_zero, Nat.zero_div]
    exact Nat.zero_le _

end SetProtocol.SingleIndexModule
