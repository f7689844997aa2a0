import SetProtocol.Library.Roster
import SetProtocol.Modules.GeneralIndexTrades

/-!
# Histories of the general index module

Between trades the manager changes targets, settings and permissions, fees accrue, shares are
issued and redeemed, and the module may leave the SetToken and come back.  What each call can
change is said once; the invariants of whole histories follow from it.
-/

namespace SetProtocol.GeneralIndexModule

open Transaction PreciseUnitMath

/-- A transaction outside the module: an issuance, a fee accrual, a transfer, or nothing but
time passing.  Positions stay in order, time does not go back, and only the calls of
`IndexCall` make the module initialized or end that. -/
structure OtherCall (module : Address) where
  execute : Chain → Outcome Chain
  bookkept : ∀ chain next, execute chain = .ok next → Bookkept chain.setToken →
    Bookkept next.setToken
  timestamp_le : ∀ chain next, execute chain = .ok next → chain.timestamp ≤ next.timestamp
  initialized_iff : ∀ chain next, execute chain = .ok next →
    (next.setToken.moduleStates module = .INITIALIZED ↔
      chain.setToken.moduleStates module = .INITIALIZED)

inductive IndexCall (module : Address)
  | startRebalance (sender : Address) (plan : RebalancePlan)
  | trade (caller : Caller) (component : Address) (ethQuantityLimit : ℕ)
  | tradeRemainingWETH (caller : Caller) (component : Address) (minComponentReceived : ℕ)
  | raiseAssetTargets (sender : Address)
  | setTradeMaximums (sender : Address) (components : List Address) (tradeMaximums : List ℕ)
  | setExchanges (sender : Address) (components : List Address) (exchangeNames : List String)
  | setCoolOffPeriods (sender : Address) (components : List Address)
      (coolOffPeriods : List ℕ)
  | setExchangeData (sender : Address) (components : List Address)
      (exchangeData : List Bytes)
  | setRaiseTargetPercentage (sender : Address) (percentage : ℕ)
  | setTraderStatus (sender : Address) (traders : List Address) (statuses : List Bool)
  | setAnyoneTrade (sender : Address) (status : Bool)
  | initializeModule (sender : Address)
  | addModule (sender : Address)
  | removeModule (sender : Address)
  | other (call : OtherCall module)

variable {P : Type}

/-- `removeModule` of the SetToken, with the module's callback. -/
def leaveSetToken (module : Address) (world : World P) (sender : Address) :
    Outcome (World P) := do
  world.setToken.validateRemoveModule sender module
  let cleared := removeModule world
  let setToken ← cleared.setToken.forgetModule module
  pure (cleared.withChain (cleared.withSetToken setToken))

def perform (exchanges : Exchanges P) (module : Address) :
    IndexCall module → World P → Outcome (World P)
  | .startRebalance sender plan, world => startRebalance module world sender plan
  | .trade caller component limit, world => do
      let (traded, _) ← trade exchanges module world caller component limit
      pure traded
  | .tradeRemainingWETH caller component minimum, world => do
      let (traded, _) ← tradeRemainingWETH exchanges module world caller component minimum
      pure traded
  | .raiseAssetTargets sender, world => raiseAssetTargets exchanges.weth world sender
  | .setTradeMaximums sender components maximums, world =>
      setTradeMaximums module world sender components maximums
  | .setExchanges sender components names, world =>
      setExchanges exchanges module world sender components names
  | .setCoolOffPeriods sender components periods, world =>
      setCoolOffPeriods module world sender components periods
  | .setExchangeData sender components data, world =>
      setExchangeData module world sender components data
  | .setRaiseTargetPercentage sender percentage, world =>
      setRaiseTargetPercentage module world sender percentage
  | .setTraderStatus sender traders statuses, world =>
      setTraderStatus module world sender traders statuses
  | .setAnyoneTrade sender status, world => setAnyoneTrade module world sender status
  | .initializeModule sender, world => initializeModule module world sender
  | .addModule sender, world => do
      let setToken ← world.setToken.addModule world.controller sender module
      pure (world.withChain (world.withSetToken setToken))
  | .removeModule sender, world => leaveSetToken module world sender
  | .other call, world => do
      let chain ← call.execute world.toChain
      pure (world.withChain chain)

/-! ## What each call changes -/

variable {exchanges : Exchanges P} {module sender : Address} {world next : World P}
variable {call : IndexCall module}

/-- Sets what the manager permits, or makes the module initialized or ends that. -/
def SetsPermissions : IndexCall module → Prop
  | .setTraderStatus _ _ _ | .setAnyoneTrade _ _ | .initializeModule _ | .removeModule _ => True
  | _ => False

def Initializes : IndexCall module → Prop
  | .initializeModule _ => True
  | _ => False

/-- The recorded time of each component's last trade is kept, or is the block time. -/
def KeepsTradeTimes (world next : World P) : Prop :=
  ∀ component, (next.executionInfo component).lastTradeTimestamp =
      (world.executionInfo component).lastTradeTimestamp ∨
    (next.executionInfo component).lastTradeTimestamp = world.timestamp

/-- What one call can change. -/
structure Effects (call : IndexCall module) (world next : World P) : Prop where
  bookkept : Bookkept world.setToken → Bookkept next.setToken
  timestamp_le : world.timestamp ≤ next.timestamp
  permissions : ¬SetsPermissions call → next.permissionInfo = world.permissionInfo ∧
    (next.setToken.moduleStates module = .INITIALIZED ↔
      world.setToken.moduleStates module = .INITIALIZED)
  tradeTimes : ¬Initializes call → KeepsTradeTimes world next

theorem KeepsTradeTimes.of_same (hsame : ∀ component,
    (next.executionInfo component).lastTradeTimestamp =
      (world.executionInfo component).lastTradeTimestamp) : KeepsTradeTimes world next :=
  fun component => Or.inl (hsame component)

/-- The module's own storage changes, and the times of trades do not. -/
theorem effects_of_settings (hchain : next.toChain = world.toChain)
    (hpermissions : ¬SetsPermissions call → next.permissionInfo = world.permissionInfo)
    (htimes : ∀ component, (next.executionInfo component).lastTradeTimestamp =
      (world.executionInfo component).lastTradeTimestamp) : Effects call world next := by
  have hsetToken : next.setToken = world.setToken :=
    congrArg (fun chain : Chain => chain.setToken) hchain
  have htimestamp : next.timestamp = world.timestamp :=
    congrArg (fun chain : Chain => chain.timestamp) hchain
  refine ⟨fun hkept => hsetToken ▸ hkept, htimestamp.ge, fun hsets => ?_, fun _ => ?_⟩
  · exact ⟨hpermissions hsets, by rw [hsetToken]⟩
  · exact KeepsTradeTimes.of_same htimes

/-- The setters of execution parameters, that of the exchanges included, leave everything
else. -/
structure SettingsOnly (world next : World P) : Prop where
  toChain : next.toChain = world.toChain
  permissionInfo : next.permissionInfo = world.permissionInfo
  tradeTimes : ∀ component, (next.executionInfo component).lastTradeTimestamp =
    (world.executionInfo component).lastTradeTimestamp

theorem SettingsOnly.effects (hsettings : SettingsOnly world next) : Effects call world next :=
  effects_of_settings hsettings.toChain (fun _ => hsettings.permissionInfo)
    hsettings.tradeTimes

theorem SettingsOnly.trans {middle : World P} (hfirst : SettingsOnly world middle)
    (hsecond : SettingsOnly middle next) : SettingsOnly world next :=
  ⟨hsecond.toChain.trans hfirst.toChain, hsecond.permissionInfo.trans hfirst.permissionInfo,
    fun component => (hsecond.tradeTimes component).trans (hfirst.tradeTimes component)⟩

theorem settingsOnly_withExecutionInfo {component : Address} {params : TradeExecutionParams}
    (htime : params.lastTradeTimestamp =
      (world.executionInfo component).lastTradeTimestamp) :
    SettingsOnly world (world.withExecutionInfo component params) := by
  refine ⟨rfl, rfl, fun other => ?_⟩
  by_cases hsame : other = component
  · simp [World.withExecutionInfo, hsame, htime]
  · simp [World.withExecutionInfo, hsame]

theorem settingsOnly_setParams {A : Type} {components : List Address} {settings : List A}
    {set : TradeExecutionParams → A → TradeExecutionParams}
    (hset : ∀ params value, (set params value).lastTradeTimestamp = params.lastTradeTimestamp)
    (hcall : setParams module world sender components settings set = .ok next) :
    SettingsOnly world next := by
  simp only [setParams, bind_eq_ok, pure_eq_ok] at hcall
  obtain ⟨_, -, _, -, rfl⟩ := hcall
  generalize components.zip settings = entries
  induction entries generalizing world with
  | nil => exact ⟨rfl, rfl, fun _ => rfl⟩
  | cons entry entries ih => exact (settingsOnly_withExecutionInfo (hset _ _)).trans ih

theorem settingsOnly_setExchanges {components : List Address} {exchangeNames : List String}
    (hcall : setExchanges exchanges module world sender components exchangeNames = .ok next) :
    SettingsOnly world next := by
  simp only [setExchanges, bind_eq_ok] at hcall
  obtain ⟨_, -, _, -, hloop⟩ := hcall
  have hturn : ∀ entry ∈ components.zip exchangeNames, ∀ middle later : World P,
      SettingsOnly world middle → setExchange exchanges module middle entry = .ok later →
        SettingsOnly world later := by
    intro entry _ middle later hmiddle hstep
    unfold setExchange at hstep
    split at hstep
    · simp only [bind_eq_ok, pure_eq_ok] at hstep
      obtain ⟨_, -, rfl⟩ := hstep
      exact hmiddle.trans (settingsOnly_withExecutionInfo rfl)
    · cases hstep
      exact hmiddle
  exact foldlM_preserves hturn ⟨rfl, rfl, fun _ => rfl⟩ hloop

/-- Storing the targets keeps the times of trades. -/
theorem tradeTimes_of_setTargetUnits {setToken : SetToken} {entries : List (Address × ℕ)}
    {executionInfo updated : Address → TradeExecutionParams}
    (hloop : entries.foldlM (setTargetUnit setToken) executionInfo = .ok updated)
    (component : Address) : (updated component).lastTradeTimestamp =
      (executionInfo component).lastTradeTimestamp := by
  have hturn : ∀ entry ∈ entries, ∀ middle later : Address → TradeExecutionParams,
      (middle component).lastTradeTimestamp = (executionInfo component).lastTradeTimestamp →
      setTargetUnit setToken middle entry = .ok later →
        (later component).lastTradeTimestamp =
          (executionInfo component).lastTradeTimestamp := by
    intro entry _ middle later hmiddle hstep
    simp only [setTargetUnit, bind_eq_ok, pure_eq_ok] at hstep
    obtain ⟨_, -, rfl⟩ := hstep
    by_cases hsame : component = entry.1
    · rw [← hsame, Function.update_self]
      exact hmiddle
    · rw [Function.update_of_ne hsame]
      exact hmiddle
  exact foldlM_preserves hturn rfl hloop

/-- A trade changes positions, and the time of one component. -/
theorem effects_of_settlement {tradeInfo : TradeInfo} {component : Address}
    {netSent netReceived fee : ℕ} (hsettlement : Settlement exchanges module world component
      tradeInfo next netSent netReceived fee) : Effects call world next := by
  have hrepositioned := hsettlement.repositioned
  refine ⟨hrepositioned.bookkept, hrepositioned.timestamp.ge, fun _ =>
    ⟨hsettlement.permissionInfo, by rw [hrepositioned.moduleStates]⟩, fun _ other => ?_⟩
  rw [hsettlement.executionInfo]
  by_cases hsame : other = component
  · rw [hsame, Function.update_self]
    exact Or.inr rfl
  · rw [Function.update_of_ne hsame]
    exact Or.inl rfl

/-- What each call of the list can change. -/
theorem effects_of_ok (hcall : perform exchanges module call world = .ok next) :
    Effects call world next := by
  cases call with
  | startRebalance sender plan =>
      simp only [perform, startRebalance, bind_eq_ok, pure_eq_ok] at hcall
      obtain ⟨_, -, aggregate, -, executionInfo, hloop, rfl⟩ := hcall
      exact effects_of_settings rfl (fun _ => rfl) (tradeTimes_of_setTargetUnits hloop)
  | trade caller component limit =>
      simp only [perform, bind_eq_ok, pure_eq_ok] at hcall
      obtain ⟨⟨traded, event⟩, htrade, rfl⟩ := hcall
      obtain ⟨-, _, _, _, _, -, -, -, hsettlement, -⟩ := trade_eq_ok htrade
      exact effects_of_settlement hsettlement
  | tradeRemainingWETH caller component minimum =>
      simp only [perform, bind_eq_ok, pure_eq_ok] at hcall
      obtain ⟨⟨traded, event⟩, htrade, rfl⟩ := hcall
      obtain ⟨-, -, _, _, _, _, -, -, -, -, hsettlement, -⟩ := tradeRemainingWETH_eq_ok htrade
      exact effects_of_settlement hsettlement
  | raiseAssetTargets sender =>
      simp only [perform, raiseAssetTargets, bind_eq_ok, pure_eq_ok] at hcall
      obtain ⟨_, -, _, -, _, -, _, -, _, -, _, -, rfl⟩ := hcall
      exact effects_of_settings rfl (fun _ => rfl) fun _ => rfl
  | setTradeMaximums sender components maximums =>
      have hsettings : SettingsOnly world next := by
        simp only [perform, setTradeMaximums] at hcall
        apply settingsOnly_setParams _ hcall
        exact fun _ _ => rfl
      exact hsettings.effects
  | setExchanges sender components names => exact (settingsOnly_setExchanges hcall).effects
  | setCoolOffPeriods sender components periods =>
      have hsettings : SettingsOnly world next := by
        simp only [perform, setCoolOffPeriods] at hcall
        apply settingsOnly_setParams _ hcall
        exact fun _ _ => rfl
      exact hsettings.effects
  | setExchangeData sender components data =>
      have hsettings : SettingsOnly world next := by
        simp only [perform, setExchangeData] at hcall
        apply settingsOnly_setParams _ hcall
        exact fun _ _ => rfl
      exact hsettings.effects
  | setRaiseTargetPercentage sender percentage =>
      simp only [perform, setRaiseTargetPercentage, bind_eq_ok, pure_eq_ok] at hcall
      obtain ⟨_, -, _, -, rfl⟩ := hcall
      exact effects_of_settings rfl (fun _ => rfl) fun _ => rfl
  | setTraderStatus sender traders statuses =>
      simp only [perform, setTraderStatus, bind_eq_ok, pure_eq_ok] at hcall
      obtain ⟨_, -, _, -, _, -, rfl⟩ := hcall
      exact effects_of_settings rfl (fun hsets => absurd trivial hsets) fun _ => rfl
  | setAnyoneTrade sender status =>
      simp only [perform, setAnyoneTrade, bind_eq_ok, pure_eq_ok] at hcall
      obtain ⟨_, -, rfl⟩ := hcall
      exact effects_of_settings rfl (fun hsets => absurd trivial hsets) fun _ => rfl
  | initializeModule sender =>
      simp only [perform, initializeModule, SetToken.initializeModule, bind_eq_ok,
        pure_eq_ok] at hcall
      obtain ⟨_, -, _, -, _, -, _, -, _, -, _, ⟨_, -, _, -, rfl⟩, rfl⟩ := hcall
      exact ⟨fun hkept => hkept.of_same_positions rfl rfl rfl, le_rfl,
        fun hsets => absurd trivial hsets, fun hinitializes => absurd trivial hinitializes⟩
  | addModule sender =>
      simp only [perform, SetToken.addModule, bind_eq_ok, require_eq_ok, pure_eq_ok] at hcall
      obtain ⟨_, ⟨_, -, _, hnone, _, -, rfl⟩, rfl⟩ := hcall
      refine ⟨fun hkept => hkept.of_same_positions rfl rfl rfl, le_rfl, fun _ => ⟨rfl, ?_⟩,
        fun _ => KeepsTradeTimes.of_same fun _ => rfl⟩
      simp [World.withChain, Chain.withSetToken, SetToken.withModuleState, hnone]
  | removeModule sender =>
      simp only [perform, leaveSetToken, SetToken.forgetModule, bind_eq_ok, pure_eq_ok] at hcall
      obtain ⟨_, -, _, ⟨_, -, rfl⟩, rfl⟩ := hcall
      exact ⟨fun hkept => hkept.of_same_positions rfl rfl rfl, le_rfl,
        fun hsets => absurd trivial hsets, fun _ => KeepsTradeTimes.of_same fun _ => rfl⟩
  | other call =>
      simp only [perform, bind_eq_ok, pure_eq_ok] at hcall
      obtain ⟨chain, hother, rfl⟩ := hcall
      exact ⟨call.bookkept _ _ hother, call.timestamp_le _ _ hother,
        fun _ => ⟨rfl, call.initialized_iff _ _ hother⟩,
        fun _ => KeepsTradeTimes.of_same fun _ => rfl⟩

end SetProtocol.GeneralIndexModule
