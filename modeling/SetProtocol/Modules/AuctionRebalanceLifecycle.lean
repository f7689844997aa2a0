import SetProtocol.Library.Roster
import SetProtocol.Modules.AuctionRebalanceUnlock

/-!
# The life cycle of a rebalance

The gate of a bid is spread over a start time, a duration that an early unlock
zeroes, permissions that a removal clears through a list of bidders, and the
state of the module on the SetToken.  Over every history of the module on one
SetToken, with removals and new initializations, a bid or a raise of the targets
returns only while the latest rebalance is in progress, and only to a caller that
the manager has permitted since the latest initialization.
-/

namespace SetProtocol.AuctionRebalanceModule

open Transaction PreciseUnitMath Roster

/-! ## Histories with removals -/

/-- A transaction outside the module.  Time does not go back, and only the calls of
`LifecycleCall` make the module initialized or end that. -/
structure OtherCall (module : Address) where
  execute : Chain → Outcome Chain
  timestamp_le : ∀ chain next, execute chain = .ok next →
    chain.timestamp ≤ next.timestamp
  initialized_iff : ∀ chain next, execute chain = .ok next →
    (next.setToken.moduleStates module = .INITIALIZED ↔
      chain.setToken.moduleStates module = .INITIALIZED)

inductive LifecycleCall (module : Address)
  | rebalance (call : RebalanceCall)
  | initializeModule (sender : Address)
  | addModule (sender : Address)
  | removeModule (sender : Address)
  | other (call : OtherCall module)

/-- `removeModule` of the SetToken, with the module's callback. -/
def leaveSetToken (module : Address) (world : World) (sender : Address) :
    Outcome World := do
  world.setToken.validateRemoveModule sender module
  let cleared := removeModule world
  let setToken ← cleared.setToken.forgetModule module
  pure (cleared.withChain (cleared.withSetToken setToken))

def performLifecycle (adapters : Adapters) (module : Address) :
    LifecycleCall module → World → Outcome World
  | .rebalance call, world => perform adapters module call world
  | .initializeModule sender, world => initializeModule module world sender
  | .addModule sender, world => do
      let setToken ← world.setToken.addModule world.controller sender module
      pure (world.withChain (world.withSetToken setToken))
  | .removeModule sender, world => leaveSetToken module world sender
  | .other call, world => do
      let chain ← call.execute world.toChain
      pure (world.withChain chain)

/-- The storage of a SetToken that the module has never seen. -/
def Untouched (world : World) : Prop :=
  world.permissionInfo = ⟨false, [], fun _ => false⟩ ∧ world.rebalanceInfo = noRebalanceInfo

/-! ## What the history says -/

/-- A returning call and its block time. -/
abbrev Entry (module : Address) := ℕ × LifecycleCall module

/-- The returning calls of a history that starts in `world`. -/
def callLog (adapters : Adapters) (module : Address)
    (calls : List (LifecycleCall module)) (world : World) : List (Entry module) :=
  log (fun world : World => world.timestamp) (performLifecycle adapters module) calls world

variable {adapters : Adapters} {module bidder sender : Address} {world next : World}
variable {call : LifecycleCall module} {past : List (Entry module)} {time : ℕ}

/-- A new rebalance, an unlock or a removal. -/
def EndsRebalance : LifecycleCall module → Prop
  | .rebalance (.startRebalance _ _) | .rebalance .unlock | .removeModule _ => True
  | _ => False

def Starts (start duration : ℕ) (entry : Entry module) : Prop :=
  entry.1 = start ∧ ∃ sender plan, entry.2 = .rebalance (.startRebalance sender plan) ∧
    plan.rebalanceDuration = duration

/-- The latest rebalance started at this time with this duration, and neither an
unlock nor a removal has returned since. -/
def LatestRebalance (past : List (Entry module)) (start duration : ℕ) : Prop :=
  Since (Starts start duration) (fun entry => EndsRebalance entry.2) past

def Initializes : LifecycleCall module → Prop
  | .initializeModule _ => True
  | _ => False

/-- What a call says of a bidder: the last entry in its arrays counts. -/
def statusIn (bidder : Address) : LifecycleCall module → Option Bool
  | .rebalance (.setBidderStatus _ bidders statuses) =>
      (bidders.zip statuses).reverse.lookup bidder
  | _ => none

def anyoneIn : LifecycleCall module → Option Bool
  | .rebalance (.setAnyoneBid _ status) => some status
  | _ => none

/-! ## The invariant -/

/-- The stored rebalance is in the history, unless its time is over. -/
structure Timed (past : List (Entry module)) (world : World) : Prop where
  started : world.rebalanceInfo.rebalanceStartTime ≤ world.timestamp
  latest : world.timestamp <
      world.rebalanceInfo.rebalanceStartTime + world.rebalanceInfo.rebalanceDuration →
    LatestRebalance past world.rebalanceInfo.rebalanceStartTime
      world.rebalanceInfo.rebalanceDuration

/-- Every stored permission is in the history, and none is left while the module is
not initialized. -/
structure Permissioned (past : List (Entry module)) (world : World) : Prop where
  listed : ∀ bidder, world.permissionInfo.bidAllowList bidder = true →
    bidder ∈ world.permissionInfo.biddersHistory
  clean : world.setToken.moduleStates module ≠ .INITIALIZED →
    world.permissionInfo.isAnyoneAllowedToBid = false ∧
      ∀ bidder, world.permissionInfo.bidAllowList bidder = false
  anyone : world.permissionInfo.isAnyoneAllowedToBid = true →
    LatestSetting (anyoneIn ∘ Prod.snd) (Initializes ∘ Prod.snd) past
  status : ∀ bidder, world.permissionInfo.bidAllowList bidder = true →
    LatestSetting (statusIn bidder ∘ Prod.snd) (Initializes ∘ Prod.snd) past

/-- The stored times of the rebalance stay, while the block time may grow. -/
structure SameTimes (world next : World) : Prop where
  timestamp_le : world.timestamp ≤ next.timestamp
  start : next.rebalanceInfo.rebalanceStartTime = world.rebalanceInfo.rebalanceStartTime
  duration : next.rebalanceInfo.rebalanceDuration = world.rebalanceInfo.rebalanceDuration

/-- The permissions stay, and with them whether the module is initialized. -/
structure SamePermissions (module : Address) (world next : World) : Prop where
  permissionInfo : next.permissionInfo = world.permissionInfo
  initialized_iff : next.setToken.moduleStates module = .INITIALIZED ↔
    world.setToken.moduleStates module = .INITIALIZED

theorem Timed.of_same (htimed : Timed past world) (hsame : SameTimes world next)
    (hends : ¬EndsRebalance call) : Timed (past ++ [(time, call)]) next := by
  obtain ⟨hle, hstart, hduration⟩ := hsame
  refine ⟨hstart ▸ htimed.started.trans hle, fun hprogress => ?_⟩
  rw [hstart, hduration] at hprogress ⊢
  exact Since.snoc (htimed.latest (hle.trans_lt hprogress)) hends

theorem Permissioned.of_same (hpermissioned : Permissioned past world)
    (hsame : SamePermissions module world next) (hinitializes : ¬Initializes call)
    (hanyone : anyoneIn call = none) (hstatus : ∀ bidder, statusIn bidder call = none) :
    Permissioned (past ++ [(time, call)]) next := by
  obtain ⟨hlisted, hclean, hlatest, hstatuses⟩ := hpermissioned
  obtain ⟨hinfo, hiff⟩ := hsame
  refine ⟨?_, ?_, ?_, ?_⟩ <;> rw [hinfo]
  · exact hlisted
  · exact fun hstate => hclean (mt hiff.mpr hstate)
  · exact fun hopen => (hlatest hopen).snoc hanyone hinitializes
  · exact fun bidder hallowed =>
      (hstatuses bidder hallowed).snoc (hstatus bidder) hinitializes

/-- Calls that change the chain only. -/
theorem sameTimes_withChain {chain : Chain} (hle : world.timestamp ≤ chain.timestamp) :
    SameTimes world (world.withChain chain) := ⟨hle, rfl, rfl⟩

theorem samePermissions_withChain {chain : Chain}
    (hiff : chain.setToken.moduleStates module = .INITIALIZED ↔
      world.setToken.moduleStates module = .INITIALIZED) :
    SamePermissions module world (world.withChain chain) := ⟨rfl, hiff⟩

/-! ## What each call changes -/

/-- A bid changes balances and positions. -/
theorem bid_withChain {order : BidOrder}
    (hcall : bid adapters module world sender order = .ok next) :
    ∃ chain : Chain, next = world.withChain chain ∧ chain.timestamp = world.timestamp ∧
      chain.setToken.moduleStates = world.setToken.moduleStates := by
  obtain ⟨chain, rfl, hkeeps⟩ := keepsLock_bid hcall
  refine ⟨chain, rfl, ?_, hkeeps.moduleStates⟩
  obtain ⟨-, -, bidInfo, executed, charged, updated, -, hexecuted, hcharged, hupdated, heq⟩ :=
    bid_eq_ok hcall
  obtain ⟨_, rfl⟩ := executeBid_frame hexecuted
  obtain ⟨_, rfl⟩ := accrueProtocolFee_frame hcharged
  obtain ⟨_, _, _, _, _, _, -, -, rfl⟩ := updatePositionState_eq_ok hupdated
  exact congrArg (fun world : World => world.timestamp) heq

/-- Only a new rebalance, an unlock and a removal touch the stored times. -/
theorem sameTimes_of_ok (hends : ¬EndsRebalance call)
    (hcall : performLifecycle adapters module call world = .ok next) :
    SameTimes world next := by
  rcases call with call | sender | sender | sender | call
  · cases call with
    | startRebalance sender plan => exact absurd trivial hends
    | unlock => exact absurd trivial hends
    | bid sender order =>
        obtain ⟨chain, rfl, htime, -⟩ := bid_withChain hcall
        exact sameTimes_withChain htime.ge
    | raiseAssetTargets sender =>
        simp only [performLifecycle, perform, raiseAssetTargets, bind_eq_ok, pure_eq_ok] at hcall
        obtain ⟨_, -, _, -, _, -, _, -, _, -, _, -, _, -, rfl⟩ := hcall
        exact ⟨le_rfl, rfl, rfl⟩
    | setRaiseTargetPercentage sender percentage =>
        simp only [performLifecycle, perform, setRaiseTargetPercentage, bind_eq_ok,
          pure_eq_ok] at hcall
        obtain ⟨_, -, rfl⟩ := hcall
        exact ⟨le_rfl, rfl, rfl⟩
    | setBidderStatus sender bidders statuses =>
        simp only [performLifecycle, perform, setBidderStatus, bind_eq_ok, pure_eq_ok] at hcall
        obtain ⟨_, -, _, -, _, -, rfl⟩ := hcall
        exact ⟨le_rfl, rfl, rfl⟩
    | setAnyoneBid sender status =>
        simp only [performLifecycle, perform, setAnyoneBid, bind_eq_ok, pure_eq_ok] at hcall
        obtain ⟨_, -, rfl⟩ := hcall
        exact ⟨le_rfl, rfl, rfl⟩
    | mint issuer account quantity =>
        simp only [performLifecycle, perform, bind_eq_ok, pure_eq_ok] at hcall
        obtain ⟨chain, hmint, rfl⟩ := hcall
        obtain ⟨-, -, rfl⟩ := Chain.mint_eq_ok hmint
        exact sameTimes_withChain le_rfl
    | burn issuer account quantity =>
        simp only [performLifecycle, perform, bind_eq_ok, pure_eq_ok] at hcall
        obtain ⟨chain, hburn, rfl⟩ := hcall
        obtain ⟨-, -, -, rfl⟩ := Chain.burn_eq_ok hburn
        exact sameTimes_withChain le_rfl
    | transfer token source target quantity =>
        simp only [performLifecycle, perform, bind_eq_ok, pure_eq_ok] at hcall
        obtain ⟨chain, hmove, rfl⟩ := hcall
        obtain ⟨-, rfl⟩ := Chain.moveTokens_eq_ok.mp hmove
        exact sameTimes_withChain le_rfl
    | elapse seconds =>
        rw [performLifecycle, perform, pure_eq_ok] at hcall
        subst hcall
        exact sameTimes_withChain (Nat.le_add_right _ seconds)
  · simp only [performLifecycle, initializeModule, bind_eq_ok, pure_eq_ok] at hcall
    obtain ⟨_, -, _, -, _, -, _, -, _, -, _, -, rfl⟩ := hcall
    exact ⟨le_rfl, rfl, rfl⟩
  · simp only [performLifecycle, bind_eq_ok, pure_eq_ok] at hcall
    obtain ⟨_, -, rfl⟩ := hcall
    exact sameTimes_withChain le_rfl
  · exact absurd trivial hends
  · simp only [performLifecycle, bind_eq_ok, pure_eq_ok] at hcall
    obtain ⟨chain, hother, rfl⟩ := hcall
    exact sameTimes_withChain (call.timestamp_le _ chain hother)

/-- A call that sets permissions, or makes the module initialized or ends that. -/
def SetsPermissions : LifecycleCall module → Prop
  | .rebalance (.setBidderStatus _ _ _) | .rebalance (.setAnyoneBid _ _)
  | .initializeModule _ | .removeModule _ => True
  | _ => False

theorem samePermissions_of_ok (hsets : ¬SetsPermissions call)
    (hcall : performLifecycle adapters module call world = .ok next) :
    SamePermissions module world next := by
  rcases call with call | sender | sender | sender | call
  · cases call with
    | setBidderStatus sender bidders statuses => exact absurd trivial hsets
    | setAnyoneBid sender status => exact absurd trivial hsets
    | startRebalance sender plan =>
        simp only [performLifecycle, perform, startRebalance, bind_eq_ok, pure_eq_ok] at hcall
        obtain ⟨_, -, setToken, hlock, _, -, _, -, rfl⟩ := hcall
        split at hlock
        · simp only [SetToken.lock, bind_eq_ok, pure_eq_ok] at hlock
          obtain ⟨_, -, _, -, rfl⟩ := hlock
          exact ⟨rfl, Iff.rfl⟩
        · cases hlock
          exact ⟨rfl, Iff.rfl⟩
    | unlock =>
        simp only [performLifecycle, perform, unlock, SetToken.unlock, bind_eq_ok,
          pure_eq_ok] at hcall
        obtain ⟨_, -, _, -, _, -, _, ⟨_, -, _, -, _, -, rfl⟩, rfl⟩ := hcall
        exact ⟨rfl, Iff.rfl⟩
    | bid sender order =>
        obtain ⟨chain, rfl, -, hstates⟩ := bid_withChain hcall
        exact samePermissions_withChain (by rw [hstates])
    | raiseAssetTargets sender =>
        simp only [performLifecycle, perform, raiseAssetTargets, bind_eq_ok, pure_eq_ok] at hcall
        obtain ⟨_, -, _, -, _, -, _, -, _, -, _, -, _, -, rfl⟩ := hcall
        exact ⟨rfl, Iff.rfl⟩
    | setRaiseTargetPercentage sender percentage =>
        simp only [performLifecycle, perform, setRaiseTargetPercentage, bind_eq_ok,
          pure_eq_ok] at hcall
        obtain ⟨_, -, rfl⟩ := hcall
        exact ⟨rfl, Iff.rfl⟩
    | mint issuer account quantity =>
        simp only [performLifecycle, perform, bind_eq_ok, pure_eq_ok] at hcall
        obtain ⟨chain, hmint, rfl⟩ := hcall
        obtain ⟨-, -, rfl⟩ := Chain.mint_eq_ok hmint
        exact samePermissions_withChain Iff.rfl
    | burn issuer account quantity =>
        simp only [performLifecycle, perform, bind_eq_ok, pure_eq_ok] at hcall
        obtain ⟨chain, hburn, rfl⟩ := hcall
        obtain ⟨-, -, -, rfl⟩ := Chain.burn_eq_ok hburn
        exact samePermissions_withChain Iff.rfl
    | transfer token source target quantity =>
        simp only [performLifecycle, perform, bind_eq_ok, pure_eq_ok] at hcall
        obtain ⟨chain, hmove, rfl⟩ := hcall
        obtain ⟨-, rfl⟩ := Chain.moveTokens_eq_ok.mp hmove
        exact samePermissions_withChain Iff.rfl
    | elapse seconds =>
        rw [performLifecycle, perform, pure_eq_ok] at hcall
        subst hcall
        exact samePermissions_withChain Iff.rfl
  · exact absurd trivial hsets
  · simp only [performLifecycle, SetToken.addModule, bind_eq_ok, require_eq_ok,
      pure_eq_ok] at hcall
    obtain ⟨_, ⟨_, -, _, hnone, _, -, rfl⟩, rfl⟩ := hcall
    exact samePermissions_withChain
      (by simp [Chain.withSetToken, SetToken.withModuleState, hnone])
  · exact absurd trivial hsets
  · simp only [performLifecycle, bind_eq_ok, pure_eq_ok] at hcall
    obtain ⟨chain, hother, rfl⟩ := hcall
    exact samePermissions_withChain (call.initialized_iff _ chain hother)

/-! ## One call -/

theorem timed_of_ok (htimed : Timed past world)
    (hcall : performLifecycle adapters module call world = .ok next) :
    Timed (past ++ [(world.timestamp, call)]) next := by
  by_cases hends : EndsRebalance call
  swap
  · exact htimed.of_same (sameTimes_of_ok hends hcall) hends
  rcases call with call | sender | sender | sender | call
  · cases call with
    | startRebalance sender plan =>
        simp only [performLifecycle, perform, startRebalance, bind_eq_ok, pure_eq_ok] at hcall
        obtain ⟨_, -, setToken, -, _, -, _, -, rfl⟩ := hcall
        exact ⟨le_rfl, fun _ => since_snoc_of_opens ⟨rfl, sender, plan, rfl, rfl⟩⟩
    | unlock =>
        -- out of time already, or the duration becomes zero
        simp only [performLifecycle, perform, unlock, isRebalanceDurationElapsed, bind_eq_ok,
          require_eq_ok, pure_eq_ok, SafeMath.add_eq_ok] at hcall
        obtain ⟨elapsed, ⟨finish, ⟨-, hfinish⟩, helapsed⟩, early, -, -, hended, setToken, -,
          rfl⟩ := hcall
        have hstarted := htimed.started
        refine ⟨hstarted, fun hprogress => absurd hprogress (not_lt.mpr ?_)⟩
        dsimp only [World.withRebalanceInfo, World.withChain, Chain.withSetToken]
        rcases hended with rfl | rfl
        · have hover := of_decide_eq_true helapsed
          split <;> omega
        · rw [if_pos rfl]
          exact hstarted
    | _ => exact absurd hends id
  · exact absurd hends id
  · exact absurd hends id
  · simp only [performLifecycle, leaveSetToken, bind_eq_ok, pure_eq_ok] at hcall
    obtain ⟨_, -, setToken, -, rfl⟩ := hcall
    exact ⟨Nat.zero_le _, fun hprogress => absurd hprogress (Nat.not_lt_zero _)⟩
  · exact absurd hends id

/-- Updating the list of bidders keeps whoever is still allowed to bid. -/
theorem updateBidderStatus_listed {permissions updated : BidPermissionInfo}
    {entry : Address × Bool}
    (hlisted : ∀ bidder, permissions.bidAllowList bidder = true →
      bidder ∈ permissions.biddersHistory)
    (hcall : updateBidderStatus permissions entry = .ok updated) :
    ∀ bidder, updated.bidAllowList bidder = true → bidder ∈ updated.biddersHistory := by
  obtain ⟨account, status⟩ := entry
  simp only [updateBidderStatus, updateBiddersHistory, bind_eq_ok, pure_eq_ok] at hcall
  obtain ⟨history, hhistory, rfl⟩ := hcall
  intro bidder hallowed
  dsimp only at hallowed ⊢
  by_cases hsame : bidder = account
  · subst hsame
    rw [Function.update_self] at hallowed
    subst hallowed
    split at hhistory
    · rw [pure_eq_ok] at hhistory
      simp [← hhistory]
    · rename_i hcontains
      have hmem : bidder ∈ permissions.biddersHistory := by
        simpa [AddressArrayUtils.contains_eq_true] using hcontains
      simp only [Bool.true_eq_false, false_and, if_false, pure_eq_ok] at hhistory
      exact hhistory ▸ hmem
  · rw [Function.update_of_ne hsame] at hallowed
    have hmem := hlisted bidder hallowed
    split at hhistory
    · rw [pure_eq_ok] at hhistory
      simp [← hhistory, hmem]
    · split at hhistory
      · obtain ⟨-, hperm⟩ := AddressArrayUtils.removeStorage_eq_ok hhistory
        exact hperm.mem_iff.mpr ((List.mem_erase_of_ne hsame).mpr hmem)
      · rw [pure_eq_ok] at hhistory
        exact hhistory ▸ hmem

/-- After the loop of `setBidderStatus` the last entry of a bidder counts. -/
theorem bidAllowList_of_updates {permissions updated : BidPermissionInfo}
    {entries : List (Address × Bool)}
    (hfold : entries.foldlM updateBidderStatus permissions = .ok updated) :
    updated.isAnyoneAllowedToBid = permissions.isAnyoneAllowedToBid ∧
      ∀ bidder, updated.bidAllowList bidder =
        (entries.reverse.lookup bidder).getD (permissions.bidAllowList bidder) := by
  have hstep : ∀ (before : BidPermissionInfo) (entry : Address × Bool)
      (after : BidPermissionInfo), updateBidderStatus before entry = .ok after →
        after.isAnyoneAllowedToBid = before.isAnyoneAllowedToBid ∧
        after.bidAllowList = Function.update before.bidAllowList entry.1 entry.2 := by
    intro before entry after hcall
    simp only [updateBidderStatus, bind_eq_ok, pure_eq_ok] at hcall
    obtain ⟨_, -, rfl⟩ := hcall
    exact ⟨rfl, rfl⟩
  have hturn : ∀ entry ∈ entries, ∀ before after : BidPermissionInfo,
      before.isAnyoneAllowedToBid = permissions.isAnyoneAllowedToBid →
      updateBidderStatus before entry = .ok after →
        after.isAnyoneAllowedToBid = permissions.isAnyoneAllowedToBid :=
    fun entry _ before after hbefore hcall => (hstep before entry after hcall).1.trans hbefore
  exact ⟨foldlM_preserves hturn rfl hfold, fun bidder => Roster.flag_of_batch
    (fun before entry after hcall => (hstep before entry after hcall).2) hfold bidder⟩

/-- Clearing the listed bidders clears them all. -/
theorem cleared_allowList (biddersHistory : List Address) (allowed : Address → Bool)
    (bidder : Address) (hlisted : allowed bidder = true → bidder ∈ biddersHistory) :
    biddersHistory.foldl (fun allowed bidder => Function.update allowed bidder false) allowed
      bidder = false := by
  induction biddersHistory generalizing allowed with
  | nil => simpa using hlisted
  | cons first rest ih =>
      refine ih _ fun hallowed => ?_
      by_cases hsame : bidder = first
      · simp [hsame] at hallowed
      · have hkept : allowed bidder = true := by simpa [hsame] using hallowed
        exact List.mem_of_ne_of_mem hsame (hlisted hkept)

theorem settings_of_not_sets (hsets : ¬SetsPermissions call) :
    ¬Initializes call ∧ anyoneIn call = none ∧ ∀ bidder, statusIn bidder call = none := by
  rcases call with call | _ | _ | _ | _
  · cases call <;> simp_all [SetsPermissions, Initializes, anyoneIn, statusIn]
  all_goals simp_all [SetsPermissions, Initializes, anyoneIn, statusIn]

theorem permissioned_setBidderStatus {bidders : List Address} {statuses : List Bool}
    (hpermissioned : Permissioned past world)
    (hcall : setBidderStatus module world sender bidders statuses = .ok next) :
    Permissioned
      (past ++ [(time, .rebalance (.setBidderStatus sender bidders statuses))]) next := by
  obtain ⟨hlisted, -, hanyone, hstatus⟩ := hpermissioned
  simp only [setBidderStatus, Chain.validateOnlyManagerAndValidSet, bind_eq_ok,
    require_eq_ok, pure_eq_ok] at hcall
  obtain ⟨_, ⟨_, -, -, hinitialized⟩, _, -, updated, hupdated, rfl⟩ := hcall
  obtain ⟨hkept, hallowed⟩ := bidAllowList_of_updates hupdated
  refine ⟨?_, fun hstate => absurd hinitialized hstate, fun hopen => ?_,
    fun bidder htrue => ?_⟩
  · exact foldlM_preserves (fun entry _ permissions middle hmiddle =>
      updateBidderStatus_listed hmiddle) hlisted hupdated
  · exact (hanyone (hkept ▸ hopen)).snoc rfl id
  · dsimp only at htrue
    rw [hallowed] at htrue
    cases hlast : (bidders.zip statuses).reverse.lookup bidder with
    | none =>
        rw [hlast] at htrue
        exact (hstatus bidder htrue).snoc hlast id
    | some status =>
        rw [hlast] at htrue
        exact since_snoc_of_opens (hlast.trans (congrArg some htrue))

theorem permissioned_setAnyoneBid {status : Bool} (hpermissioned : Permissioned past world)
    (hcall : setAnyoneBid module world sender status = .ok next) :
    Permissioned (past ++ [(time, .rebalance (.setAnyoneBid sender status))]) next := by
  obtain ⟨hlisted, -, -, hstatus⟩ := hpermissioned
  simp only [setAnyoneBid, Chain.validateOnlyManagerAndValidSet, bind_eq_ok,
    require_eq_ok, pure_eq_ok] at hcall
  obtain ⟨_, ⟨_, -, -, hinitialized⟩, rfl⟩ := hcall
  exact ⟨hlisted, fun hstate => absurd hinitialized hstate,
    fun hopen => since_snoc_of_opens (congrArg some hopen),
    fun bidder hallowed => (hstatus bidder hallowed).snoc rfl id⟩

/-- A pending module has no permissions left, so none comes from before. -/
theorem permissioned_initializeModule (hpermissioned : Permissioned past world)
    (hcall : initializeModule module world sender = .ok next) :
    Permissioned (past ++ [(time, .initializeModule sender)]) next := by
  obtain ⟨-, hclean, -, -⟩ := hpermissioned
  simp only [initializeModule, Chain.validateOnlyValidAndPendingSet, bind_eq_ok,
    require_eq_ok, pure_eq_ok] at hcall
  obtain ⟨_, -, _, ⟨_, -, hpending⟩, _, -, _, -, _, -, _, -, rfl⟩ := hcall
  obtain ⟨hanyone, hstatus⟩ := hclean (by rw [hpending]; decide)
  have hnobody : ∀ bidder, world.permissionInfo.bidAllowList bidder ≠ true := fun bidder =>
    Bool.eq_false_iff.mp (hstatus bidder)
  exact ⟨fun bidder hallowed => absurd hallowed (hnobody bidder),
    fun _ => ⟨hanyone, hstatus⟩, fun hopen => absurd hopen (Bool.eq_false_iff.mp hanyone),
    fun bidder hallowed => absurd hallowed (hnobody bidder)⟩

theorem permissioned_leaveSetToken (hpermissioned : Permissioned past world)
    (hcall : leaveSetToken module world sender = .ok next) :
    Permissioned (past ++ [(time, .removeModule sender)]) next := by
  simp only [leaveSetToken, bind_eq_ok, pure_eq_ok] at hcall
  obtain ⟨_, -, setToken, -, rfl⟩ := hcall
  have hcleared : ∀ bidder, (removeModule world).permissionInfo.bidAllowList bidder = false :=
    fun bidder => cleared_allowList _ _ bidder (hpermissioned.listed bidder)
  have hnobody : ∀ bidder, (removeModule world).permissionInfo.bidAllowList bidder ≠ true :=
    fun bidder => Bool.eq_false_iff.mp (hcleared bidder)
  exact ⟨fun bidder hallowed => absurd hallowed (hnobody bidder), fun _ => ⟨rfl, hcleared⟩,
    fun hopen => absurd hopen Bool.false_ne_true,
    fun bidder hallowed => absurd hallowed (hnobody bidder)⟩

theorem permissioned_of_ok (hpermissioned : Permissioned past world)
    (hcall : performLifecycle adapters module call world = .ok next) :
    Permissioned (past ++ [(time, call)]) next := by
  by_cases hsets : SetsPermissions call
  swap
  · obtain ⟨hinitializes, hanyone, hstatus⟩ := settings_of_not_sets hsets
    exact hpermissioned.of_same (samePermissions_of_ok hsets hcall) hinitializes hanyone hstatus
  rcases call with call | sender | sender | sender | call
  · cases call with
    | setBidderStatus sender bidders statuses =>
        exact permissioned_setBidderStatus hpermissioned hcall
    | setAnyoneBid sender status => exact permissioned_setAnyoneBid hpermissioned hcall
    | _ => exact absurd hsets id
  · exact permissioned_initializeModule hpermissioned hcall
  · exact absurd hsets id
  · exact permissioned_leaveSetToken hpermissioned hcall
  · exact absurd hsets id

/-! ## Histories -/

/-- A call through which the sender takes part in the rebalance. -/
def TakesPart (sender : Address) (call : RebalanceCall) : Prop :=
  (∃ order, call = .bid sender order) ∨ call = .raiseAssetTargets sender

/-- What bids and raises check. -/
theorem gate_of_ok {call : RebalanceCall} (htakes : TakesPart sender call)
    (hcall : perform adapters module call world = .ok next) :
    isAllowedBidder world sender = true ∧ isRebalanceDurationElapsed world = .ok false := by
  obtain ⟨order, rfl⟩ | rfl := htakes
  · simp only [perform, bid, validateOnlyAllowedBidder, validateBidTargets, bind_eq_ok,
      require_eq_ok] at hcall
    obtain ⟨_, hallowed, _, ⟨_, -, _, -, _, -, _, -, elapsed, helapsed, _, rfl, -⟩, -⟩ := hcall
    exact ⟨hallowed, helapsed⟩
  · simp only [perform, raiseAssetTargets, validateOnlyAllowedBidder, bind_eq_ok,
      require_eq_ok] at hcall
    obtain ⟨_, hallowed, elapsed, helapsed, _, rfl, -⟩ := hcall
    exact ⟨hallowed, helapsed⟩

/-- In every history, a bid or a raise of the targets returns only between a
`startRebalance` and the end of its duration, with no later `startRebalance`, unlock or
removal, and only if the latest setting since the initialization permits the caller. -/
theorem inProgress_of_history (huntouched : Untouched world)
    (calls : List (LifecycleCall module)) {call : RebalanceCall}
    (htakes : TakesPart sender call)
    (hcall : perform adapters module call
      (run (performLifecycle adapters module) calls world) = .ok next) :
    (∃ start duration, LatestRebalance (callLog adapters module calls world) start duration ∧
        (run (performLifecycle adapters module) calls world).timestamp < start + duration) ∧
      (LatestSetting (anyoneIn ∘ Prod.snd) (Initializes ∘ Prod.snd)
          (callLog adapters module calls world) ∨
        LatestSetting (statusIn sender ∘ Prod.snd) (Initializes ∘ Prod.snd)
          (callLog adapters module calls world)) := by
  obtain ⟨hpermissions, hinfo⟩ := huntouched
  have hstart : Timed ([] : List (Entry module)) world ∧
      Permissioned ([] : List (Entry module)) world := by
    refine ⟨⟨?_, ?_⟩, ⟨?_, ?_, ?_, ?_⟩⟩
    · simp [hinfo, noRebalanceInfo]
    · simp [hinfo, noRebalanceInfo]
    all_goals simp [hpermissions]
  obtain ⟨htimed, hpermissioned⟩ := run_log_preserves
    (fun past world => Timed past world ∧ Permissioned past world)
    (fun world : World => world.timestamp)
    (fun past call world next hrecorded hcall =>
      ⟨timed_of_ok hrecorded.1 hcall, permissioned_of_ok hrecorded.2 hcall⟩) calls hstart
  obtain ⟨hallowed, helapsed⟩ := gate_of_ok htakes hcall
  constructor
  · simp only [isRebalanceDurationElapsed, bind_eq_ok, pure_eq_ok, SafeMath.add_eq_ok,
      decide_eq_false_iff_not, not_le] at helapsed
    obtain ⟨_, ⟨-, rfl⟩, hprogress⟩ := helapsed
    exact ⟨_, _, htimed.latest hprogress, hprogress⟩
  · rw [isAllowedBidder, Bool.or_eq_true] at hallowed
    exact hallowed.imp hpermissioned.anyone (hpermissioned.status sender)

/-- As `idleWorld`, with the module still pending. -/
def pendingWorld : World :=
  { idleWorld with
    setToken := { SetToken.deploy [10] [50] [5] 7 with totalSupply := 10 ^ 18 } }

/-- The module is removed and comes back before a bidder is permitted and a rebalance
starts. -/
def returningCalls : List (LifecycleCall 5) :=
  [.initializeModule 7, .rebalance (.setBidderStatus 7 [3, 4] [true, true]), .removeModule 7,
    .addModule 7, .initializeModule 7, .rebalance (.setBidderStatus 7 [3] [true]),
    .rebalance (.startRebalance 7
      { lockedPlan 10 with oldComponentsAuctionParams := [⟨40, "constant", []⟩] })]

theorem inProgress_of_history_returning :
    (∃ start duration,
        LatestRebalance (callLog quietAdapters 5 returningCalls pendingWorld) start duration ∧
        (run (performLifecycle quietAdapters 5) returningCalls pendingWorld).timestamp <
          start + duration) ∧
      (LatestSetting (anyoneIn ∘ Prod.snd) (Initializes ∘ Prod.snd)
          (callLog quietAdapters 5 returningCalls pendingWorld) ∨
        LatestSetting (statusIn 3 ∘ Prod.snd) (Initializes ∘ Prod.snd)
          (callLog quietAdapters 5 returningCalls pendingWorld)) := by
  obtain ⟨next, hcall, -⟩ := returns_iff.mp (by decide +kernel :
    Returns (perform quietAdapters 5 (.raiseAssetTargets 3)
      (run (performLifecycle quietAdapters 5) returningCalls pendingWorld)) fun _ => True)
  exact inProgress_of_history ⟨rfl, rfl⟩ returningCalls (Or.inr rfl) hcall

end SetProtocol.AuctionRebalanceModule
