import SetProtocol.Core.SetTokenCreator
import SetProtocol.Modules.MaturedPositions

/-!
# Matured fCash is cleared

A call that succeeds empties the default positions of all matured fCash, credits what came in
to the receive tokens and leaves everything else, as long as no matured fCash has an external
position of positive notional: the loop does not tell it from a default position and redeems
fCash that the SetToken holds untracked.
-/

namespace SetProtocol.NotionalTradeModule

open Transaction PreciseUnitMath

variable {P : Type} {notional : Notional P} {module component token : Address}
variable {world next : World P} {events : List FCashRedeemed}

/-- What a call with these redemptions is expected to leave. -/
structure Cleared (notional : Notional P) (world next : World P)
    (events : List FCashRedeemed) : Prop where
  matured : ∀ component, isMatured notional world component = true →
    0 < trackedNotional world component →
      next.setToken.defaultPositionVirtualUnit component = 0 ∧
        (component ∈ next.setToken.components ↔
          next.setToken.getExternalPositionModules component ≠ [])
  credited : ∀ event ∈ events, Credited world next events event.receiveToken
  untracked : ∀ token, KeepsUntracked world next events token
  others : ∀ token, (∀ event ∈ events, token ≠ event.fCashPosition) →
    (∀ event ∈ events, token ≠ event.receiveToken) →
      next.setToken.componentPositions token = world.setToken.componentPositions token

/-- A module keeps matured fCash of the SetToken elsewhere. -/
def HasExternalFCash (notional : Notional P) (world : World P) : Prop :=
  ∃ component ∈ world.setToken.components, isMatured notional world component = true ∧
    ∃ module ∈ world.setToken.getExternalPositionModules component,
      0 < totalFCashAmount world (world.setToken.externalEntry component module)

/-! ## What is due -/

/-- The due entries of the list of positions. -/
def dueEntries (notional : Notional P) (world : World P) : List SetToken.Position :=
  (world.setToken.components.flatMap world.setToken.entriesOf).filter (isDue notional world)

theorem isDue_iff {position : SetToken.Position} :
    isDue notional world position = true ↔
      isMatured notional world position.component = true ∧
        0 < totalFCashAmount world position := by
  rw [isDue, Bool.and_eq_true, Bool.and_eq_true, decide_eq_true_eq, decide_eq_true_eq]
  refine ⟨fun hdue => ⟨hdue.1.2, hdue.2⟩, fun hdue => ⟨⟨?_, hdue.1⟩, hdue.2⟩⟩
  by_contra hnone
  have hunit : position.unit.toNat = 0 := Int.toNat_of_nonpos (not_lt.mp hnone)
  have htotal := hdue.2
  rw [totalFCashAmount, hunit, Allocation.held, Nat.mul_zero, Nat.zero_div] at htotal
  exact absurd htotal (lt_irrefl 0)

theorem virtualUnit_pos_of_tracked (hkept : Bookkept world.setToken)
    (htracked : 0 < trackedNotional world component) :
    0 < world.setToken.defaultPositionVirtualUnit component := by
  refine lt_of_le_of_ne (hkept.positions component).default_nonneg fun hnone => ?_
  exact htracked.ne' (trackedNotional_of_none hnone.symm)

theorem defaultEntry_due (hkept : Bookkept world.setToken)
    (hmatured : isMatured notional world component = true)
    (htracked : 0 < trackedNotional world component) :
    world.setToken.defaultEntry component ∈ dueEntries notional world := by
  have hpositive := virtualUnit_pos_of_tracked hkept htracked
  have hlisted := (hkept.components.mem_iff component).mpr (Or.inl hpositive)
  exact List.mem_filter.mpr ⟨SetToken.defaultEntry_mem hlisted hpositive,
    isDue_iff.mpr ⟨hmatured, htracked⟩⟩

/-- The due entries of one component, if no module keeps its fCash elsewhere. -/
theorem due_of_component (hnone : ¬HasExternalFCash notional world)
    (hmem : component ∈ world.setToken.components) :
    List.Sublist ((world.setToken.entriesOf component).filter (isDue notional world))
      [world.setToken.defaultEntry component] := by
  have hexternal : ((world.setToken.getExternalPositionModules component).map
      (world.setToken.externalEntry component)).filter (isDue notional world) = [] := by
    refine List.filter_eq_nil_iff.mpr fun entry hentry hdue => ?_
    obtain ⟨module, hmodule, rfl⟩ := List.mem_map.mp hentry
    obtain ⟨hmatured, htotal⟩ := isDue_iff.mp hdue
    exact hnone ⟨component, hmem, hmatured, module, hmodule, htotal⟩
  rw [SetToken.entriesOf, List.filter_append, hexternal, List.append_nil]
  refine List.filter_sublist.trans ?_
  split
  · exact List.Sublist.refl _
  · exact List.nil_sublist _

theorem dueEntries_eq : dueEntries notional world = world.setToken.components.flatMap
    fun component => (world.setToken.entriesOf component).filter (isDue notional world) :=
  List.filter_flatMap

theorem defaultEntry_of_due (hnone : ¬HasExternalFCash notional world)
    {entry : SetToken.Position} (hentry : entry ∈ dueEntries notional world) :
    entry = world.setToken.defaultEntry entry.component := by
  rw [dueEntries_eq] at hentry
  obtain ⟨component, hmem, hdue⟩ := List.mem_flatMap.mp hentry
  obtain rfl := List.mem_singleton.mp ((due_of_component hnone hmem).mem hdue)
  rfl

/-- No component is due twice. -/
theorem dueComponents_nodup (hkept : Bookkept world.setToken)
    (hnone : ¬HasExternalFCash notional world) :
    ((dueEntries notional world).map SetToken.Position.component).Nodup := by
  rw [dueEntries_eq, List.map_flatMap]
  refine List.Nodup.sublist ?_ hkept.components.nodup
  have hsingle : world.setToken.components.flatMap (fun component => [component]) =
      world.setToken.components := List.flatMap_singleton' _
  nth_rewrite 2 [← hsingle]
  exact List.Sublist.flatMap_right _ fun component hmem =>
    (due_of_component hnone hmem).map SetToken.Position.component

/-- What a due entry burns of a token. -/
def burnedFor (world : World P) (token : Address) (entry : SetToken.Position) : ℕ :=
  if entry.component = token then totalFCashAmount world entry else 0

theorem burnedOf_eq (hevents : events.map (fun event =>
      (event.fCashPosition, event.fCashAmount)) =
    (dueEntries notional world).map fun entry =>
      (entry.component, totalFCashAmount world entry)) :
    burnedOf events token = Tally.total (dueEntries notional world) (burnedFor world token) := by
  have hsums := congrArg (fun pairs : List (Address × ℕ) =>
    Tally.total pairs fun pair => if pair.1 = token then pair.2 else 0) hevents
  simp only [Tally.total, List.map_map] at hsums
  exact hsums

/-- An external position makes the loop burn more than what is tracked. -/
theorem tracked_lt_burned (hkept : Bookkept world.setToken)
    (hevents : events.map (fun event => (event.fCashPosition, event.fCashAmount)) =
      (dueEntries notional world).map fun entry =>
        (entry.component, totalFCashAmount world entry))
    (hmem : component ∈ world.setToken.components)
    (hmatured : isMatured notional world component = true)
    (hmodule : module ∈ world.setToken.getExternalPositionModules component)
    (htotal : 0 < totalFCashAmount world (world.setToken.externalEntry component module)) :
    trackedNotional world component < burnedOf events component := by
  have hexternal : world.setToken.externalEntry component module ∈
      dueEntries notional world :=
    List.mem_filter.mpr ⟨SetToken.externalEntry_mem hmem hmodule,
      isDue_iff.mpr ⟨hmatured, htotal⟩⟩
  have hburned : burnedFor world component (world.setToken.externalEntry component module) =
      totalFCashAmount world (world.setToken.externalEntry component module) := if_pos rfl
  rw [burnedOf_eq hevents]
  by_cases htracked : 0 < trackedNotional world component
  · -- both entries of the component are redeemed
    classical
    have hdefault := defaultEntry_due hkept hmatured htracked
    have hne : world.setToken.defaultEntry component ≠
        world.setToken.externalEntry component module := by
      intro hsame
      exact SetToken.PositionState.noConfusion
        (congrArg SetToken.Position.positionState hsame)
    have hboth : burnedFor world component (world.setToken.defaultEntry component) +
        burnedFor world component (world.setToken.externalEntry component module) ≤
          Tally.total (dueEntries notional world) (burnedFor world component) :=
      Tally.add_le_total hexternal hdefault hne
    have hall : burnedFor world component (world.setToken.defaultEntry component) =
        trackedNotional world component := if_pos rfl
    omega
  · have hone : burnedFor world component (world.setToken.externalEntry component module) ≤
        Tally.total (dueEntries notional world) (burnedFor world component) :=
      Tally.le_total hexternal
    omega

/-! ## When everything matured is cleared -/

/-- What has matured is not received. -/
theorem receivedOf_of_matured (htrace : Trace (Turn notional world) world events next)
    (hmatured : isMatured notional world token = true) : receivedOf events token = 0 := by
  refine Nat.eq_zero_of_not_pos fun hpositive => ?_
  obtain ⟨event, hmem, hamount⟩ := Tally.total_pos_iff.mp hpositive
  have hsettles := htrace.each (fun _ _ _ hturn => hturn.settles) event hmem
  have hne : event.receiveToken ≠ token := by
    intro hsame
    rw [hsame, hmatured] at hsettles
    exact Bool.false_ne_true hsettles.symm
  rw [if_neg hne] at hamount
  exact absurd hamount (lt_irrefl 0)

theorem covered_of_tracked (hkept : Bookkept world.setToken)
    (htracked : world.toChain.Tracked) : Covered world := by
  intro token
  by_cases hmem : token ∈ world.setToken.components
  · exact htracked token hmem
  · rw [trackedNotional, hkept.defaultRealUnit_of_not_mem hmem, Allocation.held, Nat.mul_zero,
      Nat.zero_div]
    exact Nat.zero_le _

theorem cleared_of_trace (hkept : Bookkept world.setToken) (hcovered : Covered world)
    (hnone : ¬HasExternalFCash notional world)
    (htrace : Trace (Turn notional world) world events next)
    (hevents : events.map (fun event => (event.fCashPosition, event.fCashAmount)) =
      (dueEntries notional world).map fun entry =>
        (entry.component, totalFCashAmount world entry)) :
    Cleared notional world next events := by
  have hcomponents : events.map FCashRedeemed.fCashPosition =
      (dueEntries notional world).map SetToken.Position.component := by
    have hfirst := congrArg (List.map Prod.fst) hevents
    rw [List.map_map, List.map_map] at hfirst
    exact hfirst
  have hall : ∀ event ∈ events,
      event.fCashAmount = trackedNotional world event.fCashPosition := by
    intro event hmem
    have hpair := List.mem_map_of_mem (f := fun event : FCashRedeemed =>
      (event.fCashPosition, event.fCashAmount)) hmem
    rw [hevents] at hpair
    obtain ⟨entry, hentry, hsame⟩ := List.mem_map.mp hpair
    obtain ⟨hcomponent, hamount⟩ := Prod.mk.inj hsame
    rw [← hamount, ← hcomponent, defaultEntry_of_due hnone hentry]
    rfl
  obtain ⟨hemptied, hcredited, huntracked⟩ := effects_of_trace htrace hkept hcovered
    (hcomponents ▸ dueComponents_nodup hkept hnone) hall
  refine ⟨fun component hmatured htracked => ?_, fun event hmem => ?_, huntracked,
    fun token => positions_of_trace htrace⟩
  · have hdue := List.mem_map_of_mem (f := SetToken.Position.component)
      (defaultEntry_due hkept hmatured htracked)
    rw [← hcomponents] at hdue
    obtain ⟨event, hmem, hsame⟩ := List.mem_map.mp hdue
    have hzero := hemptied event hmem
    rw [hsame] at hzero
    refine ⟨hzero, ?_⟩
    have hnext := (keeps_of_trace htrace).bookkept hkept
    rw [hnext.components.mem_iff component]
    exact or_iff_right fun hpositive => hpositive.ne' hzero
  · apply hcredited
    intro other hother hsame
    have hsettles := htrace.each (fun _ _ _ hturn => hturn.settles) event hmem
    have hmatured := htrace.each (fun _ _ _ hturn => hturn.matured) other hother
    rw [← hsame, hsettles] at hmatured
    exact Bool.false_ne_true hmatured

/-- A successful call clears what has matured exactly if no matured fCash has an external
position of positive notional. -/
theorem cleared_iff_noExternalFCash (hkept : Bookkept world.setToken)
    (htracked : world.toChain.Tracked) (hburns : BurnsExactly notional)
    (hsettles : SettlesInOtherTokens notional world)
    (hcall : redeemMaturedPositions notional module world = .ok next) :
    ∃ events, next.redeemed = world.redeemed ++ events ∧
      (Cleared notional world next events ↔ ¬HasExternalFCash notional world) := by
  simp only [redeemMaturedPositions, bind_eq_ok] at hcall
  obtain ⟨_, -, hloop⟩ := hcall
  obtain ⟨events, htrace, hevents⟩ := redeemAllMatured_traces hburns hsettles hloop
  refine ⟨events, logged_of_trace htrace, fun hcleared => ?_, fun hnone =>
    cleared_of_trace hkept (covered_of_tracked hkept htracked) hnone htrace hevents⟩
  rintro ⟨component, hmem, hmatured, module, hmodule, htotal⟩
  have hburned := tracked_lt_burned hkept hevents hmem hmatured hmodule htotal
  have hbalances := balances_of_trace htrace component
  have huntracked := (hcleared.untracked component).atLeast
  have hreceived := receivedOf_of_matured htrace hmatured
  omega

/-- One wrapper, at address ten, that pays token eleven at par from time hundred on. -/
def parNotional : Notional Unit where
  weth := 99
  isContract token := token == 10
  getDecodedID _ _ := .ok (1, 100)
  computeAddress _ _ := .ok 10
  hasMatured _ timestamp := .ok (decide (100 ≤ timestamp))
  getToken _ _ := .ok (11, false)
  redeem order _ := .ok ((), ⟨order.fCashAmount, order.fCashAmount⟩)

theorem burnsExactly_parNotional : BurnsExactly parNotional := by
  intro order protocols after redeemed hredeemed
  simp only [parNotional, Except.ok.injEq, Prod.mk.injEq] at hredeemed
  rw [← hredeemed.2]

theorem settles_parNotional (world : World Unit) : SettlesInOtherTokens parNotional world := by
  intro component receiveToken _ hreceive
  simp only [getReceiveToken, parNotional, ok_bind, pure_eq_ok] at hreceive
  rw [← hreceive]
  rfl

/-- One share of fifty fCash that has matured, and ten that are not tracked. -/
def maturedWorld : World Unit where
  controller := { Controller.deploy 1 2 with
    isSet := fun setToken => setToken == 9
    isModule := fun module => module == 5 }
  setTokenAddress := 9
  setToken := { SetToken.deploy [10] [50] [5] 7 with
    moduleStates := fun module => if module = 5 then .INITIALIZED else .NONE
    totalSupply := 1000000000000000000 }
  balances := fun token holder => if token = 10 ∧ holder = 9 then 60 else 0
  timestamp := 200
  protocols := ()
  redemptionHookDisabled := false
  redeemToUnderlying := false
  decodedIdGasLimit := 100000
  redeemed := []

theorem bookkept_maturedWorld : Bookkept maturedWorld.setToken :=
  (SetTokenCreator.bookkept_deploy rfl (by decide) (by decide) :
    Bookkept (SetToken.deploy [10] [50] [5] 7)).of_same_positions rfl rfl rfl

theorem tracked_maturedWorld : maturedWorld.toChain.Tracked := by
  intro component hmem
  rw [List.mem_singleton.mp hmem]
  decide +kernel

theorem cleared_iff_noExternalFCash_fifty : ∃ next events,
    redeemMaturedPositions parNotional 5 maturedWorld = .ok next ∧
      next.redeemed = maturedWorld.redeemed ++ events ∧
      Cleared parNotional maturedWorld next events := by
  obtain ⟨next, hcall, -⟩ := returns_iff.mp (by decide +kernel :
    Returns (redeemMaturedPositions parNotional 5 maturedWorld) fun next =>
      next.heldBalance 10 = 10 ∧ next.heldBalance 11 = 50)
  obtain ⟨events, hlogged, hcleared⟩ := cleared_iff_noExternalFCash bookkept_maturedWorld
    tracked_maturedWorld burnsExactly_parNotional (settles_parNotional maturedWorld) hcall
  refine ⟨next, events, hcall, hlogged, hcleared.mpr ?_⟩
  rintro ⟨component, hmem, -, module, hmodule, -⟩
  rw [List.mem_singleton.mp hmem] at hmodule
  exact absurd hmodule List.not_mem_nil

/-- The fifty fCash of the share are staked through module eight.  As many others have been
sent to the SetToken. -/
def stakedWorld : World Unit :=
  { maturedWorld with
    setToken := { maturedWorld.setToken with
      componentPositions := fun component =>
        if component = 10 then
          ⟨0, [8], fun module =>
            if module = 8 then ⟨50, []⟩ else SetToken.noExternalPosition⟩
        else SetToken.noPosition }
    balances := fun token holder => if token = 10 ∧ holder = 9 then 50 else 0 }

theorem bookkept_stakedWorld : Bookkept stakedWorld.setToken where
  components := by
    refine ⟨List.nodup_singleton 10, fun component => ?_⟩
    by_cases hfCash : component = 10
    · simp [stakedWorld, maturedWorld, SetToken.deploy, ComponentPosition.IsPresent, hfCash]
    · simp [stakedWorld, maturedWorld, SetToken.deploy, ComponentPosition.IsPresent,
        SetToken.noPosition, hfCash]
  positions component := by
    by_cases hfCash : component = 10
    · subst hfCash
      refine ⟨le_rfl, by decide, ⟨List.nodup_singleton 8, fun module => ?_⟩, fun module => ?_⟩
      · by_cases hmodule : module = 8
        · simp [stakedWorld, hmodule]
        · simp [stakedWorld, SetToken.noExternalPosition, hmodule]
      · by_cases hmodule : module = 8
        · subst hmodule
          decide
        · simp [stakedWorld, SetToken.noExternalPosition, hmodule, realUnit]
    · have hnone : stakedWorld.setToken.componentPositions component = SetToken.noPosition :=
        if_neg hfCash
      rw [hnone]
      refine ⟨le_rfl, by simp [SetToken.noPosition, realUnit], ⟨List.nodup_nil, ?_⟩, ?_⟩
      · simp [SetToken.noPosition, SetToken.noExternalPosition]
      · simp [SetToken.noPosition, SetToken.noExternalPosition, realUnit]
  multiplier_pos := by decide

/-- What was sent to the SetToken is redeemed, as if it were the staked position. -/
theorem not_cleared_at_staked : Bookkept stakedWorld.setToken ∧
    stakedWorld.toChain.Tracked ∧ ∃ next, redeemMaturedPositions parNotional 5 stakedWorld =
      .ok next ∧ ∀ events, ¬Cleared parNotional stakedWorld next events := by
  obtain ⟨next, hcall, hheld⟩ := returns_iff.mp (by decide +kernel :
    Returns (redeemMaturedPositions parNotional 5 stakedWorld) fun next =>
      next.heldBalance 10 = 0)
  refine ⟨bookkept_stakedWorld, ?_, next, hcall, fun events hcleared => ?_⟩
  · intro component hmem
    rw [List.mem_singleton.mp hmem]
    decide +kernel
  · have huntracked := (hcleared.untracked 10).atLeast
    have hbefore : stakedWorld.heldBalance 10 = 50 := rfl
    have htracked : trackedNotional stakedWorld 10 = 0 := by decide +kernel
    omega

end SetProtocol.NotionalTradeModule
