import SetProtocol.Core.RebalanceTargets
import SetProtocol.Core.SetTokenCreator
import SetProtocol.Library.Search
import SetProtocol.Modules.AuctionRebalanceModule

/-!
# Ending a locked rebalance

`unlock` evaluates the early-unlock predicate even after the rebalance has run
out, so whatever makes that predicate revert keeps the SetToken locked.  In each
state that a history of calls reaches with the SetToken locked by the module,
unlocking succeeds and the predicates answer exactly when none of the checked
operations inside them fails.
-/

namespace SetProtocol.AuctionRebalanceModule

open Transaction PreciseUnitMath

variable {adapters : Adapters} {module : Address} {world next : World}
variable {component : Address}

/-- The products that the predicates compute for one component fit in a word. -/
def ProductsFitFor (world : World) (component : Address) : Prop :=
  (world.executionInfo component).targetUnit *
      world.setToken.positionMultiplier.toNat ≤ maxUint256 ∧
    FitsInt256 (world.setToken.defaultPositionVirtualUnit component *
      world.setToken.positionMultiplier)

def ProductsFit (world : World) : Prop :=
  ProductsFitFor world world.rebalanceInfo.quoteAsset ∧
    ∀ component ∈ world.rebalanceInfo.rebalanceComponents, ProductsFitFor world component

instance (world : World) (component : Address) :
    Decidable (ProductsFitFor world component) := inferInstanceAs (Decidable (_ ∧ _))

instance (world : World) : Decidable (ProductsFit world) :=
  inferInstanceAs (Decidable (_ ∧ _))

/-- Unlocking succeeds, and every predicate it looks at answers. -/
def CanEnd (module : Address) (world : World) : Prop :=
  (∃ next, unlock module world = .ok next ∧ next.setToken.isLocked = false) ∧
    (∃ met, allTargetsMet world = .ok met) ∧
    (∃ atTarget, isQuoteAssetExcessOrAtTarget world = .ok atTarget) ∧
    ∃ early, canUnlockEarly world = .ok early

/-- The unit has reached its target, up to one. -/
def TargetMet (world : World) (component : Address) : Prop :=
  component = world.rebalanceInfo.quoteAsset ∨
    (normalizedTargetUnit world component ≤ world.setToken.defaultRealUnit component + 1 ∧
      world.setToken.defaultRealUnit component ≤ normalizedTargetUnit world component + 1 ∧
      (normalizedTargetUnit world component = 0 →
        world.setToken.defaultRealUnit component = 0))

/-- A component without a position whose target is a single unit. -/
def Incomparable (world : World) (component : Address) : Prop :=
  component ≠ world.rebalanceInfo.quoteAsset ∧
    normalizedTargetUnit world component = 1 ∧
    world.setToken.defaultRealUnit component = 0

/-- None of the checked operations of the predicates fails: the stored multiplier
is not zero, the quote asset has a target or more than one unit (and the target
has a successor), and no component up to the first unmet one is incomparable. -/
structure Comparable (world : World) : Prop where
  multiplier_pos : 0 < world.rebalanceInfo.positionMultiplier
  quote_fits : normalizedTargetUnit world world.rebalanceInfo.quoteAsset < maxUint256
  quote_target : 0 < normalizedTargetUnit world world.rebalanceInfo.quoteAsset ∨
    1 < world.setToken.defaultRealUnit world.rebalanceInfo.quoteAsset
  components : ∀ before component after,
    world.rebalanceInfo.rebalanceComponents = before ++ component :: after →
    (∀ earlier ∈ before, TargetMet world earlier) → ¬Incomparable world component

/-! ## When the predicates answer -/

theorem getNormalizedTargetUnit_eq_ok (hkept : Bookkept world.setToken)
    (hfits : ProductsFitFor world component) {unit : ℕ} :
    getNormalizedTargetUnit world component = .ok unit ↔
      0 < world.rebalanceInfo.positionMultiplier ∧
        normalizedTargetUnit world component = unit :=
  (RebalanceTargets.normalize_eq_ok hkept.multiplier_pos).trans (and_iff_right hfits.1)

theorem getDefaultPositionRealUnit_eq_ok (hkept : Bookkept world.setToken)
    (hfits : ProductsFitFor world component) {unit : ℕ} :
    getDefaultPositionRealUnit world component = .ok unit ↔
      world.setToken.defaultRealUnit component = unit :=
  RebalanceTargets.read_eq_ok.trans
    (and_iff_right ((RebalanceTargets.readable_iff hkept).mpr hfits.2))

theorem decides_targetUnmet (hkept : Bookkept world.setToken)
    (hmultiplier : 0 < world.rebalanceInfo.positionMultiplier)
    (hfits : ProductsFitFor world component) :
    Decides (targetUnmet world) (fun component => ¬Incomparable world component)
      (TargetMet world) component := by
  intro unmet
  by_cases hquote : component = world.rebalanceInfo.quoteAsset
  · rw [targetUnmet, if_pos hquote, pure_eq_ok]
    simp [Incomparable, TargetMet, hquote, eq_comm]
  · rw [targetUnmet, if_neg hquote]
    simp only [bind_eq_ok, getNormalizedTargetUnit_eq_ok hkept hfits,
      getDefaultPositionRealUnit_eq_ok hkept hfits, hmultiplier, true_and, exists_eq_left']
    rw [RebalanceTargets.compare_eq_ok (RebalanceTargets.defaultRealUnit_lt hkept hfits.2)]
    simp only [Incomparable, TargetMet, RebalanceTargets.Met, hquote, ne_eq,
      not_false_eq_true, true_and, false_or]

theorem allTargetsMetFrom_eq_noneOf (world : World) (components : List Address) :
    allTargetsMetFrom world components = noneOf (targetUnmet world) components :=
  eq_noneOf rfl (fun _ _ => rfl) components

/-- The loop stops at the first unmet target, and answers if it gets that far. -/
theorem allTargetsMet_answers_iff (hkept : Bookkept world.setToken)
    (hmultiplier : 0 < world.rebalanceInfo.positionMultiplier)
    (hfits : ∀ component ∈ world.rebalanceInfo.rebalanceComponents,
      ProductsFitFor world component) :
    (∃ met, allTargetsMet world = .ok met) ↔
      ∀ before component after,
        world.rebalanceInfo.rebalanceComponents = before ++ component :: after →
        (∀ earlier ∈ before, TargetMet world earlier) → ¬Incomparable world component := by
  rw [allTargetsMet, allTargetsMetFrom_eq_noneOf]
  exact noneOf_answers_iff fun component hmem =>
    decides_targetUnmet hkept hmultiplier (hfits component hmem)

theorem isQuoteAssetExcessOrAtTarget_answers_iff (hkept : Bookkept world.setToken)
    (hfits : ProductsFitFor world world.rebalanceInfo.quoteAsset) :
    (∃ atTarget, isQuoteAssetExcessOrAtTarget world = .ok atTarget) ↔
      0 < world.rebalanceInfo.positionMultiplier ∧
        normalizedTargetUnit world world.rebalanceInfo.quoteAsset < maxUint256 ∧
        (0 < normalizedTargetUnit world world.rebalanceInfo.quoteAsset ∨
          1 < world.setToken.defaultRealUnit world.rebalanceInfo.quoteAsset) := by
  simp only [isQuoteAssetExcessOrAtTarget, bind_eq_ok,
    getDefaultPositionRealUnit_eq_ok hkept hfits, getNormalizedTargetUnit_eq_ok hkept hfits,
    exists_eq_left', and_assoc, approximatelyEquals_eq_ok, pure_eq_ok]
  constructor
  · rintro ⟨_, _, hmultiplier, rfl, _, hroom, hbounds, -⟩
    exact ⟨hmultiplier, hroom, by omega⟩
  · rintro ⟨hmultiplier, hroom, hbounds⟩
    exact ⟨_, _, hmultiplier, rfl, _, hroom, by omega, rfl, rfl⟩

/-! ## When the rebalance can be ended -/

/-- The SetToken is locked by the module, and lets it unlock. -/
structure LockedBy (module : Address) (world : World) : Prop where
  locked : world.setToken.isLocked = true
  locker : world.setToken.locker = module

def MayUnlock (module : Address) (world : World) : Prop :=
  world.setToken.moduleStates module = .INITIALIZED ∧
    world.controller.isModule module = true

theorem canEnd_iff (hkept : Bookkept world.setToken) (hlocked : LockedBy module world)
    (hmodule : MayUnlock module world)
    (helapsed : isRebalanceDurationElapsed world = .ok true) (hfits : ProductsFit world) :
    CanEnd module world ↔ Comparable world := by
  have hquote := isQuoteAssetExcessOrAtTarget_answers_iff hkept hfits.1
  constructor
  · rintro ⟨-, hmet, hatTarget, -⟩
    obtain ⟨hmultiplier, hroom, hbounds⟩ := hquote.mp hatTarget
    exact ⟨hmultiplier, hroom, hbounds,
      (allTargetsMet_answers_iff hkept hmultiplier hfits.2).mp hmet⟩
  · rintro ⟨hmultiplier, hroom, hbounds, hcomponents⟩
    obtain ⟨atTarget, hatTarget⟩ := hquote.mpr ⟨hmultiplier, hroom, hbounds⟩
    obtain ⟨met, hmet⟩ : ∃ met, allTargetsMet world = .ok met :=
      (allTargetsMet_answers_iff hkept hmultiplier hfits.2).mpr hcomponents
    obtain ⟨early, hearly⟩ : ∃ early, canUnlockEarly world = .ok early := by
      simp only [canUnlockEarly, hmet, ok_bind]
      cases met
      · exact ⟨false, rfl⟩
      · exact ⟨_, by rw [if_pos rfl, hatTarget]; rfl⟩
    refine ⟨?_, ⟨met, hmet⟩, ⟨atTarget, hatTarget⟩, early, hearly⟩
    simp only [unlock, helapsed, hearly, ok_bind, bind_eq_ok, require_eq_ok, pure_eq_ok,
      SetToken.unlock, SetToken.validateOnlyModule]
    exact ⟨_, ⟨(), Or.inl trivial, _, ⟨(), ⟨(), hmodule.1, hmodule.2⟩, (), hlocked.locked, (),
      hlocked.locker, rfl⟩, rfl⟩, rfl⟩

/-! ## Histories -/

/-- Calls of the module, and what else may happen meanwhile: an issuance or a
redemption mints or burns through another module and moves tokens, and time goes
by. -/
inductive RebalanceCall
  | startRebalance (sender : Address) (plan : RebalancePlan)
  | bid (sender : Address) (order : BidOrder)
  | raiseAssetTargets (sender : Address)
  | unlock
  | setRaiseTargetPercentage (sender : Address) (percentage : ℕ)
  | setBidderStatus (sender : Address) (bidders : List Address) (statuses : List Bool)
  | setAnyoneBid (sender : Address) (status : Bool)
  | mint (issuer account : Address) (quantity : ℕ)
  | burn (issuer account : Address) (quantity : ℕ)
  | transfer (token source target : Address) (quantity : ℕ)
  | elapse (seconds : ℕ)

def perform (adapters : Adapters) (module : Address) :
    RebalanceCall → World → Outcome World
  | .startRebalance sender plan, world => startRebalance adapters module world sender plan
  | .bid sender order, world => bid adapters module world sender order
  | .raiseAssetTargets sender, world => raiseAssetTargets world sender
  | .unlock, world => unlock module world
  | .setRaiseTargetPercentage sender percentage, world =>
      setRaiseTargetPercentage module world sender percentage
  | .setBidderStatus sender bidders statuses, world =>
      setBidderStatus module world sender bidders statuses
  | .setAnyoneBid sender status, world => setAnyoneBid module world sender status
  | .mint issuer account quantity, world => do
      let chain ← world.mint issuer account quantity
      pure (world.withChain chain)
  | .burn issuer account quantity, world => do
      let chain ← world.burn issuer account quantity
      pure (world.withChain chain)
  | .transfer token source target quantity, world => do
      let chain ← world.moveTokens token source target quantity
      pure (world.withChain chain)
  | .elapse seconds, world =>
      pure (world.withChain { world.toChain with timestamp := world.timestamp + seconds })

/-- Positions and supply may change, the lock and the module states do not. -/
structure KeepsLock (before after : Chain) : Prop where
  bookkept : Bookkept before.setToken → Bookkept after.setToken
  isLocked : after.setToken.isLocked = before.setToken.isLocked
  locker : after.setToken.locker = before.setToken.locker
  moduleStates : after.setToken.moduleStates = before.setToken.moduleStates
  controller : after.controller = before.controller

/-- Positions are in order, and a SetToken that the module has locked lets it
unlock. -/
def Steady (module : Address) (world : World) : Prop :=
  Bookkept world.setToken ∧ (LockedBy module world → MayUnlock module world)

theorem KeepsLock.steady {reached : Chain} (hkeeps : KeepsLock world.toChain reached)
    (hsteady : Steady module world) : Steady module (world.withChain reached) := by
  refine ⟨hkeeps.bookkept hsteady.1, fun hby => ?_⟩
  obtain ⟨hstate, henabled⟩ := hsteady.2
    ⟨hkeeps.isLocked ▸ hby.locked, hkeeps.locker ▸ hby.locker⟩
  exact ⟨(congrFun hkeeps.moduleStates module).trans hstate,
    (congrArg (fun controller => controller.isModule module) hkeeps.controller).trans
      henabled⟩

section KeepsLock

variable {chain reached : Chain}

theorem KeepsLock.trans {middle : Chain} (hfirst : KeepsLock chain middle)
    (hsecond : KeepsLock middle reached) : KeepsLock chain reached :=
  ⟨fun hkept => hsecond.bookkept (hfirst.bookkept hkept),
    hsecond.isLocked.trans hfirst.isLocked, hsecond.locker.trans hfirst.locker,
    hsecond.moduleStates.trans hfirst.moduleStates,
    hsecond.controller.trans hfirst.controller⟩

theorem keepsLock_of_balances (chain : Chain) (balances : Address → Address → ℕ) :
    KeepsLock chain { chain with balances := balances } := ⟨id, rfl, rfl, rfl, rfl⟩

theorem keepsLock_of_supply (hcontroller : reached.controller = chain.controller)
    {supply : ℕ}
    (hsetToken : reached.setToken = { chain.setToken with totalSupply := supply }) :
    KeepsLock chain reached := by
  refine ⟨fun hkept => ?_, ?_, ?_, ?_, hcontroller⟩
  · rw [hsetToken]
    exact hkept.of_same_positions rfl rfl rfl
  all_goals rw [hsetToken]

theorem keepsLock_of_edit {setToken : SetToken} {controller : Controller}
    {sender : Address} {currentBalance supply previousBalance oldUnit newUnit : ℕ}
    (hcall : Position.calculateAndEditDefaultPosition chain.setToken controller sender
      component currentBalance supply previousBalance = .ok (setToken, oldUnit, newUnit)) :
    KeepsLock chain (chain.withSetToken setToken) := by
  obtain ⟨-, -, hedit⟩ := Position.calculateAndEditDefaultPosition_eq_ok.mp hcall
  refine ⟨fun hkept => hkept.editDefaultPosition hedit, ?_, ?_, ?_, rfl⟩
  all_goals
    obtain ⟨_, _, _, -, -, rfl, -⟩ := Position.editDefaultPosition_eq_ok hedit
    rfl

theorem keepsLock_bid {sender : Address} {order : BidOrder}
    (hcall : bid adapters module world sender order = .ok next) :
    ∃ updated, next = world.withChain updated ∧ KeepsLock world.toChain updated := by
  obtain ⟨-, -, bidInfo, executed, charged, updated, -, hexecuted, hcharged, hupdated, rfl⟩ :=
    bid_eq_ok hcall
  obtain ⟨_, rfl⟩ := executeBid_frame hexecuted
  obtain ⟨balances, rfl⟩ := accrueProtocolFee_frame hcharged
  obtain ⟨sent, received, _, _, _, _, hsent, hreceived, rfl⟩ :=
    updatePositionState_eq_ok hupdated
  have hpaid := keepsLock_of_balances world.toChain balances
  exact ⟨_, rfl, (hpaid.trans (keepsLock_of_edit hsent)).trans (keepsLock_of_edit hreceived)⟩

end KeepsLock

/-- One call: the lock is only taken by a module that may also release it. -/
theorem perform_steady (adapters : Adapters) (call : RebalanceCall) (world next : World)
    (hsteady : Steady module world)
    (hcall : perform adapters module call world = .ok next) : Steady module next := by
  cases call with
  | startRebalance sender plan =>
      simp only [perform, startRebalance, bind_eq_ok, pure_eq_ok] at hcall
      obtain ⟨_, -, setToken, hlock, _, -, _, -, rfl⟩ := hcall
      split at hlock
      · simp only [SetToken.lock, SetToken.validateOnlyModule, bind_eq_ok, require_eq_ok,
          pure_eq_ok] at hlock
        obtain ⟨_, ⟨_, hstate, henabled⟩, _, -, rfl⟩ := hlock
        exact ⟨hsteady.1.of_same_positions rfl rfl rfl, fun _ => ⟨hstate, henabled⟩⟩
      · cases hlock
        exact ⟨hsteady.1, fun hby => hsteady.2 ⟨hby.locked, hby.locker⟩⟩
  | bid sender order =>
      obtain ⟨updated, rfl, hkeeps⟩ := keepsLock_bid hcall
      exact hkeeps.steady hsteady
  | raiseAssetTargets sender =>
      simp only [perform, raiseAssetTargets, bind_eq_ok, pure_eq_ok] at hcall
      obtain ⟨_, -, _, -, _, -, _, -, _, -, _, -, _, -, rfl⟩ := hcall
      exact ⟨hsteady.1, fun hby => hsteady.2 ⟨hby.locked, hby.locker⟩⟩
  | unlock =>
      simp only [perform, unlock, SetToken.unlock, bind_eq_ok, pure_eq_ok] at hcall
      obtain ⟨_, -, _, -, _, -, _, ⟨_, -, _, -, _, -, rfl⟩, rfl⟩ := hcall
      exact ⟨hsteady.1.of_same_positions rfl rfl rfl,
        fun hby => absurd hby.locked Bool.false_ne_true⟩
  | setRaiseTargetPercentage sender percentage =>
      simp only [perform, setRaiseTargetPercentage, bind_eq_ok, pure_eq_ok] at hcall
      obtain ⟨_, -, rfl⟩ := hcall
      exact ⟨hsteady.1, fun hby => hsteady.2 ⟨hby.locked, hby.locker⟩⟩
  | setBidderStatus sender bidders statuses =>
      simp only [perform, setBidderStatus, bind_eq_ok, pure_eq_ok] at hcall
      obtain ⟨_, -, _, -, _, -, rfl⟩ := hcall
      exact ⟨hsteady.1, fun hby => hsteady.2 ⟨hby.locked, hby.locker⟩⟩
  | setAnyoneBid sender status =>
      simp only [perform, setAnyoneBid, bind_eq_ok, pure_eq_ok] at hcall
      obtain ⟨_, -, rfl⟩ := hcall
      exact ⟨hsteady.1, fun hby => hsteady.2 ⟨hby.locked, hby.locker⟩⟩
  | mint issuer account quantity =>
      simp only [perform, bind_eq_ok, pure_eq_ok] at hcall
      obtain ⟨chain, hmint, rfl⟩ := hcall
      obtain ⟨-, -, rfl⟩ := Chain.mint_eq_ok hmint
      exact KeepsLock.steady (keepsLock_of_supply rfl rfl) hsteady
  | burn issuer account quantity =>
      simp only [perform, bind_eq_ok, pure_eq_ok] at hcall
      obtain ⟨chain, hburn, rfl⟩ := hcall
      obtain ⟨-, -, -, rfl⟩ := Chain.burn_eq_ok hburn
      exact KeepsLock.steady (keepsLock_of_supply rfl rfl) hsteady
  | transfer token source target quantity =>
      simp only [perform, bind_eq_ok, pure_eq_ok] at hcall
      obtain ⟨chain, hmove, rfl⟩ := hcall
      obtain ⟨-, rfl⟩ := Chain.moveTokens_eq_ok.mp hmove
      exact (keepsLock_of_balances world.toChain _).steady hsteady
  | elapse seconds =>
      rw [perform, pure_eq_ok] at hcall
      subst hcall
      exact ⟨hsteady.1, fun hby => hsteady.2 ⟨hby.locked, hby.locker⟩⟩

/-- In every state that a history reaches with the SetToken locked by the module and
the duration elapsed, the rebalance can be ended exactly when no checked operation of
the predicates fails. -/
theorem canEnd_after_history_iff (hkept : Bookkept world.setToken)
    (hunlocked : world.setToken.isLocked = false) (calls : List RebalanceCall)
    (hlocked : LockedBy module (run (perform adapters module) calls world))
    (helapsed : isRebalanceDurationElapsed (run (perform adapters module) calls world) =
      .ok true)
    (hfits : ProductsFit (run (perform adapters module) calls world)) :
    CanEnd module (run (perform adapters module) calls world) ↔
      Comparable (run (perform adapters module) calls world) := by
  have hstart : Steady module world :=
    ⟨hkept, fun hby => absurd hby.locked (by rw [hunlocked]; exact Bool.false_ne_true)⟩
  have hsteady := run_preserves (Steady module)
    (fun call (_ : call ∈ calls) => perform_steady adapters call) hstart
  exact canEnd_iff hsteady.1 hlocked (hsteady.2 hlocked) helapsed hfits

/-- One adapter for everything, and a price of zero. -/
def quietAdapters : Adapters where
  getIntegrationAdapter _ _ := 6
  getPrice _ _ _ _ _ _ _ := .ok 0
  isPriceAdapterConfigDataValid _ _ := .ok true

/-- A share of fifty units of one component. -/
def idleWorld : World where
  controller := { Controller.deploy 1 2 with
    isSet := fun setToken => setToken == 9
    isModule := fun module => module == 5 }
  setTokenAddress := 9
  setToken := { SetToken.deploy [10] [50] [5] 7 with
    moduleStates := fun module => if module = 5 then .INITIALIZED else .NONE
    totalSupply := 10 ^ 18 }
  balances := fun token holder => if token = 10 ∧ holder = 9 then 50 else 0
  timestamp := 0
  executionInfo := fun _ => ⟨0, "", []⟩
  permissionInfo := ⟨false, [], fun _ => false⟩
  rebalanceInfo := noRebalanceInfo

/-- A locked rebalance that leaves the component where it is. -/
def lockedPlan (quoteAsset : Address) : RebalancePlan where
  quoteAsset := quoteAsset
  newComponents := []
  newComponentsAuctionParams := []
  oldComponentsAuctionParams := [⟨50, "constant", []⟩]
  shouldLockSetToken := true
  rebalanceDuration := 100
  initialPositionMultiplier := 10 ^ 18

/-- The state after the rebalance has started and its time has run out. -/
def elapsedWorld (quoteAsset : Address) : World :=
  run (perform quietAdapters 5)
    [.startRebalance 7 (lockedPlan quoteAsset), .elapse 100] idleWorld

theorem bookkept_idleWorld : Bookkept idleWorld.setToken :=
  (SetTokenCreator.bookkept_deploy rfl (List.nodup_singleton 10) (by decide) :
    Bookkept (SetToken.deploy [10] [50] [5] 7)).of_same_positions rfl rfl rfl

theorem lockedBy_elapsedWorld (quoteAsset : Address) :
    LockedBy 5 (elapsedWorld quoteAsset) := ⟨rfl, rfl⟩

theorem canEnd_after_history_quote_component : CanEnd 5 (elapsedWorld 10) := by
  refine (canEnd_after_history_iff bookkept_idleWorld rfl _ (lockedBy_elapsedWorld 10) rfl
    (by decide)).mpr ⟨by decide, by decide, by decide, ?_⟩
  intro before component after hsplit _ hincomparable
  have hmem : component ∈ (elapsedWorld 10).rebalanceInfo.rebalanceComponents := by
    rw [elapsedWorld, hsplit]
    simp
  exact hincomparable.1 (List.mem_singleton.mp hmem)

/-- The quote asset is not a component: its target and its unit are zero. -/
theorem not_canEnd_at_zero_quote :
    LockedBy 5 (elapsedWorld 11) ∧ 0 < (elapsedWorld 11).rebalanceInfo.positionMultiplier ∧
      isRebalanceDurationElapsed (elapsedWorld 11) = .ok true ∧
      ProductsFit (elapsedWorld 11) ∧ ¬CanEnd 5 (elapsedWorld 11) := by
  refine ⟨⟨rfl, rfl⟩, by decide, rfl, by decide, ?_⟩
  have hunlock : unlock 5 (elapsedWorld 11) = .error "SafeMath: subtraction overflow" := rfl
  rintro ⟨⟨next, hnext, -⟩, -⟩
  rw [hunlock] at hnext
  cases hnext

end SetProtocol.AuctionRebalanceModule
