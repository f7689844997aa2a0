import SetProtocol.Modules.AuctionRebalanceLifecycle
import SetProtocol.Modules.GeneralIndexHistories

/-!
# Who may bid and who may trade

Both rebalancing modules keep the accounts that the manager permits in a list and in a map.
A removal can clear the map only by walking the list.  Over every history of either module
the two describe the same accounts, and a permission never outlives a removal.
-/

namespace SetProtocol

open Transaction FlaggedList Roster

namespace AuctionRebalanceModule

variable {adapters : Adapters} {module sender manager : Address} {world next : World}

/-- The returning calls of a history, each with the manager at that time. -/
def managedLog (adapters : Adapters) (module : Address)
    (calls : List (LifecycleCall module)) (world : World) :
    List (Address × LifecycleCall module) :=
  log (fun world : World => world.setToken.manager) (performLifecycle adapters module) calls
    world

/-- What the manager says of a bidder; the last entry in his arrays counts. -/
def managedStatus (bidder : Address) : Address × LifecycleCall module → Option Bool
  | (manager, .rebalance (.setBidderStatus sender bidders statuses)) =>
      if sender = manager then (bidders.zip statuses).reverse.lookup bidder else none
  | _ => none

/-- The module is initialized or removed. -/
def ResetsBidders (entry : Address × LifecycleCall module) : Prop :=
  match entry.2 with
  | .initializeModule _ | .removeModule _ => True
  | _ => False

/-- The bidders that are stored, and the history that explains them. -/
def BiddersRecorded (past : List (Address × LifecycleCall module)) (world : World) : Prop :=
  Recorded managedStatus ResetsBidders past (world.setToken.moduleStates module = .INITIALIZED)
    world.permissionInfo.biddersHistory world.permissionInfo.bidAllowList

theorem agrees_of_updateBiddersHistory {biddersHistory updated : List Address}
    {allowed : Address → Bool} {account : Address} {status : Bool}
    (hagrees : Agrees biddersHistory allowed)
    (hcall : updateBiddersHistory biddersHistory account status = .ok updated) :
    Agrees updated (Function.update allowed account status) := by
  simp only [updateBiddersHistory, AddressArrayUtils.contains_eq_true,
    AddressArrayUtils.contains_eq_false] at hcall
  refine agrees_of_set hagrees (fun hstatus hmem => ?_) (fun hstatus hmem => ?_) fun hsame => ?_
  · rw [if_pos ⟨hstatus, hmem⟩, pure_eq_ok] at hcall
    exact hcall.symm
  · rw [if_neg fun hadd => hadd.2 hmem, if_pos ⟨hstatus, hmem⟩] at hcall
    exact (AddressArrayUtils.removeStorage_eq_ok hcall).2
  · rw [if_neg fun hadd => hadd.2 (hsame.mp hadd.1), if_neg fun hdrop =>
      Bool.false_ne_true (hdrop.1.symm.trans (hsame.mpr hdrop.2)), pure_eq_ok] at hcall
    exact hcall.symm

theorem agrees_of_updateBidderStatus {permissions updated : BidPermissionInfo}
    {batch : List (Address × Bool)}
    (hagrees : Agrees permissions.biddersHistory permissions.bidAllowList)
    (hloop : batch.foldlM updateBidderStatus permissions = .ok updated) :
    Agrees updated.biddersHistory updated.bidAllowList := by
  have hturn : ∀ entry ∈ batch, ∀ before after : BidPermissionInfo,
      Agrees before.biddersHistory before.bidAllowList →
      updateBidderStatus before entry = .ok after →
        Agrees after.biddersHistory after.bidAllowList := by
    intro entry _ before after hbefore hcall
    simp only [updateBidderStatus, bind_eq_ok, pure_eq_ok] at hcall
    obtain ⟨history, hhistory, rfl⟩ := hcall
    exact agrees_of_updateBiddersHistory hbefore hhistory
  exact foldlM_preserves hturn hagrees hloop

/-- One call: a batch of the manager, a reset, or nothing that matters. -/
theorem biddersRecorded_of_ok {past : List (Address × LifecycleCall module)}
    {call : LifecycleCall module} (hrecorded : BiddersRecorded past world)
    (hcall : performLifecycle adapters module call world = .ok next) :
    BiddersRecorded (past ++ [(world.setToken.manager, call)]) next := by
  by_cases hsets : SetsPermissions call
  swap
  · obtain ⟨hinfo, hiff⟩ := samePermissions_of_ok hsets hcall
    rw [BiddersRecorded, hinfo]
    apply Recorded.keep hrecorded hiff.mpr
    · intro bidder
      rcases call with call | _ | _ | _ | _
      · cases call <;> first | rfl | exact absurd trivial hsets
      all_goals rfl
    · rcases call with _ | _ | _ | _ | _ <;> first | exact id | exact absurd trivial hsets
  rcases call with call | sender | sender | sender | call
  · cases call with
    | setBidderStatus sender bidders statuses =>
        simp only [performLifecycle, perform, setBidderStatus,
          Chain.validateOnlyManagerAndValidSet, bind_eq_ok, require_eq_ok, pure_eq_ok] at hcall
        obtain ⟨_, ⟨_, hmanager, -, hinitialized⟩, _, -, updated, hupdated, rfl⟩ := hcall
        apply Recorded.batch hrecorded hinitialized
          (agrees_of_updateBidderStatus hrecorded.agrees hupdated)
          (bidAllowList_of_updates hupdated).2 _ id
        intro bidder
        rw [managedStatus, if_pos hmanager.symm]
    | setAnyoneBid sender status =>
        simp only [performLifecycle, perform, setAnyoneBid, bind_eq_ok, pure_eq_ok] at hcall
        obtain ⟨_, -, rfl⟩ := hcall
        exact Recorded.keep hrecorded id (fun _ => rfl) id
    | _ => exact absurd hsets id
  · simp only [performLifecycle, initializeModule, Chain.validateOnlyValidAndPendingSet,
      bind_eq_ok, require_eq_ok, pure_eq_ok] at hcall
    obtain ⟨_, -, _, ⟨_, -, hpending⟩, _, -, _, -, _, -, _, -, rfl⟩ := hcall
    exact Recorded.reset hrecorded (by rw [hpending]; decide) _ _
  · exact absurd hsets id
  · simp only [performLifecycle, leaveSetToken, bind_eq_ok, pure_eq_ok] at hcall
    obtain ⟨_, -, setToken, -, rfl⟩ := hcall
    exact recorded_of_cleared hrecorded.agrees.unmark
  · exact absurd hsets id

theorem biddersRecorded_of_history
    (huntouched : world.permissionInfo = ⟨false, [], fun _ => false⟩)
    (calls : List (LifecycleCall module)) :
    BiddersRecorded (managedLog adapters module calls world)
      (run (performLifecycle adapters module) calls world) := by
  have hstart : BiddersRecorded ([] : List (Address × LifecycleCall module)) world := by
    rw [BiddersRecorded, huntouched]
    exact recorded_of_cleared Agrees.empty
  exact run_log_preserves BiddersRecorded (fun world : World => world.setToken.manager)
    (fun _ _ _ _ hrecorded hcall => biddersRecorded_of_ok hrecorded hcall) calls hstart

end AuctionRebalanceModule

namespace GeneralIndexModule

variable {P : Type} {exchanges : Exchanges P} {module sender manager : Address}
variable {world next : World P}

/-- The returning calls of a history, each with the manager at that time. -/
def managedLog (exchanges : Exchanges P) (module : Address)
    (calls : List (IndexCall module)) (world : World P) : List (Address × IndexCall module) :=
  log (fun world : World P => world.setToken.manager) (perform exchanges module) calls world

/-- What the manager says of a trader; the last entry in his arrays counts. -/
def managedStatus (trader : Address) : Address × IndexCall module → Option Bool
  | (manager, .setTraderStatus sender traders statuses) =>
      if sender = manager then (traders.zip statuses).reverse.lookup trader else none
  | _ => none

/-- The module is initialized or removed. -/
def ResetsTraders (entry : Address × IndexCall module) : Prop :=
  match entry.2 with
  | .initializeModule _ | .removeModule _ => True
  | _ => False

/-- The traders that are stored, and the history that explains them. -/
def TradersRecorded (past : List (Address × IndexCall module)) (world : World P) : Prop :=
  Recorded managedStatus ResetsTraders past (world.setToken.moduleStates module = .INITIALIZED)
    world.permissionInfo.tradersHistory world.permissionInfo.tradeAllowList

/-- One turn of the loop of `setTraderStatus`, which works as the one of the auctions. -/
theorem updateTraderStatus_eq_ok {permissions updated : TradePermissionInfo}
    {entry : Address × Bool} (hcall : updateTraderStatus permissions entry = .ok updated) :
    AuctionRebalanceModule.updateBiddersHistory permissions.tradersHistory entry.1 entry.2 =
        .ok updated.tradersHistory ∧
      updated.tradeAllowList =
        Function.update permissions.tradeAllowList entry.1 entry.2 := by
  simp only [updateTraderStatus, bind_eq_ok, pure_eq_ok] at hcall
  obtain ⟨history, hhistory, rfl⟩ := hcall
  exact ⟨hhistory, rfl⟩

theorem agrees_of_updateTraderStatus {permissions updated : TradePermissionInfo}
    {batch : List (Address × Bool)}
    (hagrees : Agrees permissions.tradersHistory permissions.tradeAllowList)
    (hloop : batch.foldlM updateTraderStatus permissions = .ok updated) :
    Agrees updated.tradersHistory updated.tradeAllowList := by
  have hturn : ∀ entry ∈ batch, ∀ before after : TradePermissionInfo,
      Agrees before.tradersHistory before.tradeAllowList →
      updateTraderStatus before entry = .ok after →
        Agrees after.tradersHistory after.tradeAllowList := by
    intro entry _ before after hbefore hcall
    obtain ⟨hhistory, hallowed⟩ := updateTraderStatus_eq_ok hcall
    rw [hallowed]
    exact AuctionRebalanceModule.agrees_of_updateBiddersHistory hbefore hhistory
  exact foldlM_preserves hturn hagrees hloop

/-- One call: a batch of the manager, a reset, or nothing that matters. -/
theorem tradersRecorded_of_ok {past : List (Address × IndexCall module)}
    {call : IndexCall module} (hrecorded : TradersRecorded past world)
    (hcall : perform exchanges module call world = .ok next) :
    TradersRecorded (past ++ [(world.setToken.manager, call)]) next := by
  by_cases hsets : SetsPermissions call
  swap
  · obtain ⟨hinfo, hiff⟩ := (effects_of_ok hcall).permissions hsets
    rw [TradersRecorded, hinfo]
    apply Recorded.keep hrecorded hiff.mpr
    · intro trader
      cases call <;> first | rfl | exact absurd trivial hsets
    · cases call <;> first | exact id | exact absurd trivial hsets
  cases call with
  | setTraderStatus sender traders statuses =>
      simp only [perform, setTraderStatus, Chain.validateOnlyManagerAndValidSet, bind_eq_ok,
        require_eq_ok, pure_eq_ok] at hcall
      obtain ⟨_, ⟨_, hmanager, -, hinitialized⟩, _, -, updated, hupdated, rfl⟩ := hcall
      apply Recorded.batch hrecorded hinitialized
        (agrees_of_updateTraderStatus hrecorded.agrees hupdated)
        (flag_of_batch (fun _ _ _ hstep => (updateTraderStatus_eq_ok hstep).2) hupdated) _ id
      intro trader
      rw [managedStatus, if_pos hmanager.symm]
  | setAnyoneTrade sender status =>
      simp only [perform, setAnyoneTrade, bind_eq_ok, pure_eq_ok] at hcall
      obtain ⟨_, -, rfl⟩ := hcall
      exact Recorded.keep hrecorded id (fun _ => rfl) id
  | initializeModule sender =>
      simp only [perform, initializeModule, Chain.validateOnlyValidAndPendingSet, bind_eq_ok,
        require_eq_ok, pure_eq_ok] at hcall
      obtain ⟨_, -, _, ⟨_, -, hpending⟩, _, -, _, -, _, -, _, -, rfl⟩ := hcall
      exact Recorded.reset hrecorded (by rw [hpending]; decide) _ _
  | removeModule sender =>
      simp only [perform, leaveSetToken, bind_eq_ok, pure_eq_ok] at hcall
      obtain ⟨_, -, setToken, -, rfl⟩ := hcall
      exact recorded_of_cleared hrecorded.agrees.unmark
  | _ => exact absurd hsets id

theorem tradersRecorded_of_history
    (huntouched : world.permissionInfo = ⟨false, [], fun _ => false⟩)
    (calls : List (IndexCall module)) :
    TradersRecorded (managedLog exchanges module calls world)
      (run (perform exchanges module) calls world) := by
  have hstart : TradersRecorded ([] : List (Address × IndexCall module)) world := by
    rw [TradersRecorded, huntouched]
    exact recorded_of_cleared Agrees.empty
  exact run_log_preserves TradersRecorded (fun world : World P => world.setToken.manager)
    (fun _ _ _ _ hrecorded hcall => tradersRecorded_of_ok hrecorded hcall) calls hstart

end GeneralIndexModule

/-! ## Both modules -/

variable {P : Type}

/-- List and map name the same accounts, each once.  Whoever they name was permitted by the
manager in the latest batch that names him, after the module was last initialized, and it is
still initialized. -/
structure PermissionsMatch (entries : List Address) (flag : Address → Bool)
    (initialized : Prop) (permitted : Address → Prop) : Prop where
  nodup : entries.Nodup
  mem_iff : ∀ account, account ∈ entries ↔ flag account = true
  initialized : ∀ account, flag account = true → initialized
  permitted : ∀ account, flag account = true → permitted account

/-- In every history of the auctions and of the index trades, from a SetToken that the module
has not seen, the permitted accounts are those that the manager has permitted since. -/
theorem permissionsMatch_of_histories :
    (∀ (adapters : AuctionRebalanceModule.Adapters) (module : Address)
      (world : AuctionRebalanceModule.World)
      (calls : List (AuctionRebalanceModule.LifecycleCall module)),
      world.permissionInfo = ⟨false, [], fun _ => false⟩ →
        let reached := run (AuctionRebalanceModule.performLifecycle adapters module) calls world
        PermissionsMatch reached.permissionInfo.biddersHistory
          reached.permissionInfo.bidAllowList
          (reached.setToken.moduleStates module = .INITIALIZED)
          fun bidder => LatestSetting (AuctionRebalanceModule.managedStatus bidder)
            AuctionRebalanceModule.ResetsBidders
            (AuctionRebalanceModule.managedLog adapters module calls world)) ∧
    (∀ (exchanges : GeneralIndexModule.Exchanges P) (module : Address)
      (world : GeneralIndexModule.World P)
      (calls : List (GeneralIndexModule.IndexCall module)),
      world.permissionInfo = ⟨false, [], fun _ => false⟩ →
        let reached := run (GeneralIndexModule.perform exchanges module) calls world
        PermissionsMatch reached.permissionInfo.tradersHistory
          reached.permissionInfo.tradeAllowList
          (reached.setToken.moduleStates module = .INITIALIZED)
          fun trader => LatestSetting (GeneralIndexModule.managedStatus trader)
            GeneralIndexModule.ResetsTraders
            (GeneralIndexModule.managedLog exchanges module calls world)) := by
  constructor
  · intro adapters module world calls huntouched
    have hrecorded : AuctionRebalanceModule.BiddersRecorded
        (AuctionRebalanceModule.managedLog adapters module calls world)
        (run (AuctionRebalanceModule.performLifecycle adapters module) calls world) :=
      AuctionRebalanceModule.biddersRecorded_of_history huntouched calls
    exact ⟨hrecorded.agrees.nodup, fun bidder => (hrecorded.agrees.mem_iff bidder).symm,
      fun _ htrue => hrecorded.active_of_flag htrue, hrecorded.latest⟩
  · intro exchanges module world calls huntouched
    have hrecorded : GeneralIndexModule.TradersRecorded
        (GeneralIndexModule.managedLog exchanges module calls world)
        (run (GeneralIndexModule.perform exchanges module) calls world) :=
      GeneralIndexModule.tradersRecorded_of_history huntouched calls
    exact ⟨hrecorded.agrees.nodup, fun trader => (hrecorded.agrees.mem_iff trader).symm,
      fun _ htrue => hrecorded.active_of_flag htrue, hrecorded.latest⟩

/-- A bidder who was removed with the module and permitted again. -/
theorem permissionsMatch_returning :
    (run (AuctionRebalanceModule.performLifecycle AuctionRebalanceModule.quietAdapters 5)
        AuctionRebalanceModule.returningCalls
        AuctionRebalanceModule.pendingWorld).permissionInfo.bidAllowList 3 = true ∧
      LatestSetting (AuctionRebalanceModule.managedStatus 3)
        AuctionRebalanceModule.ResetsBidders
        (AuctionRebalanceModule.managedLog AuctionRebalanceModule.quietAdapters 5
          AuctionRebalanceModule.returningCalls AuctionRebalanceModule.pendingWorld) := by
  have hpermitted : (run
      (AuctionRebalanceModule.performLifecycle AuctionRebalanceModule.quietAdapters 5)
      AuctionRebalanceModule.returningCalls
      AuctionRebalanceModule.pendingWorld).permissionInfo.bidAllowList 3 = true := by
    decide +kernel
  have hmatch := (permissionsMatch_of_histories (P := Unit)).1
    AuctionRebalanceModule.quietAdapters 5 AuctionRebalanceModule.pendingWorld
    AuctionRebalanceModule.returningCalls rfl
  exact ⟨hpermitted, hmatch.permitted 3 hpermitted⟩

end SetProtocol
