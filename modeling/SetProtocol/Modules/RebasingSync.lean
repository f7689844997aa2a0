import SetProtocol.Core.RebalanceTargets
import SetProtocol.Core.SetTokenCreator
import SetProtocol.Core.UnitRoundTrip
import SetProtocol.Modules.RebasingComponentModule

/-!
# What a sync leaves behind

A component is up to date if a further sync would not change it.  Each turn of the loop
brings its own component up to date, and those of other components stay so, in whatever
order the list has them.  A unit that is up to date spreads the whole balance over the
shares, short of what rounding takes.
-/

namespace SetProtocol.RebasingComponentModule

open Transaction PreciseUnitMath

variable {module component : Address} {supply : ℕ} {storage : Storage}
variable {chain state next after : Chain}

/-- The balance of a component, spread over the shares. -/
def spread (supply : ℕ) (chain : Chain) (component : Address) : ℕ :=
  chain.heldBalance component * preciseUnit / supply

/-- What has been written is what would be written again. -/
structure UpToDate (module : Address) (supply : ℕ) (component : Address) (chain : Chain) :
    Prop where
  supply_pos : 0 < supply
  fits : chain.heldBalance component * preciseUnit ≤ maxUint256
  read : chain.setToken.getDefaultPositionRealUnit component =
    .ok (chain.setToken.defaultRealUnit component : ℤ)
  current : chain.setToken.defaultRealUnit component = spread supply chain component ∨
    chain.setToken.onlyModuleWhenLockedOnlyLocker chain.controller module = .ok () ∧
      chain.setToken.convertRealToVirtualUnit (spread supply chain component : ℤ) =
        .ok (chain.setToken.defaultPositionVirtualUnit component)

/-- Positions apart, a sync leaves the chain as it was. -/
structure OnlyUnits (chain next : Chain) : Prop where
  setTokenAddress : next.setTokenAddress = chain.setTokenAddress
  controller : next.controller = chain.controller
  balances : next.balances = chain.balances
  setToken : next.setToken = { chain.setToken with
    components := next.setToken.components
    componentPositions := next.setToken.componentPositions }
  externals : ∀ component, next.setToken.getExternalPositionModules component =
    chain.setToken.getExternalPositionModules component

theorem OnlyUnits.refl (chain : Chain) : OnlyUnits chain chain :=
  ⟨rfl, rfl, rfl, rfl, fun _ => rfl⟩

theorem OnlyUnits.trans (hfirst : OnlyUnits chain state) (hsecond : OnlyUnits state next) :
    OnlyUnits chain next where
  setTokenAddress := hsecond.setTokenAddress.trans hfirst.setTokenAddress
  controller := hsecond.controller.trans hfirst.controller
  balances := hsecond.balances.trans hfirst.balances
  setToken := by rw [hsecond.setToken, hfirst.setToken]
  externals := fun component =>
    (hsecond.externals component).trans (hfirst.externals component)

theorem OnlyUnits.heldBalance (honly : OnlyUnits chain next) (component : Address) :
    next.heldBalance component = chain.heldBalance component := by
  rw [Chain.heldBalance, Chain.heldBalance, honly.balances, honly.setTokenAddress]

theorem OnlyUnits.guard (honly : OnlyUnits chain next) (module : Address) :
    next.setToken.onlyModuleWhenLockedOnlyLocker next.controller module =
      chain.setToken.onlyModuleWhenLockedOnlyLocker chain.controller module := by
  rw [honly.setToken, honly.controller]
  rfl

theorem OnlyUnits.multiplier (honly : OnlyUnits chain next) :
    next.setToken.positionMultiplier = chain.setToken.positionMultiplier := by
  rw [honly.setToken]

theorem OnlyUnits.totalSupply (honly : OnlyUnits chain next) :
    next.setToken.totalSupply = chain.setToken.totalSupply := by
  rw [honly.setToken]

/-! ## One turn -/

theorem spread_eq_ok {unit : ℕ} :
    preciseDiv (chain.heldBalance component) supply = .ok unit ↔
      chain.heldBalance component * preciseUnit ≤ maxUint256 ∧ 0 < supply ∧
        spread supply chain component = unit :=
  preciseDiv_eq_ok

/-- A turn leaves its component alone, or edits it. -/
theorem syncComponent_eq_ok :
    syncComponent module supply chain component = .ok next ↔
      chain.setToken.getDefaultPositionRealUnit component =
          .ok (chain.setToken.defaultRealUnit component : ℤ) ∧
        chain.heldBalance component * preciseUnit ≤ maxUint256 ∧ 0 < supply ∧
        (chain.setToken.defaultRealUnit component = spread supply chain component ∧
            chain = next ∨
          chain.setToken.defaultRealUnit component ≠ spread supply chain component ∧
            ∃ setToken, Position.editDefaultPosition chain.setToken chain.controller module
              component (spread supply chain component) = .ok setToken ∧
                chain.withSetToken setToken = next) := by
  simp only [syncComponent, bind_eq_ok, spread_eq_ok]
  constructor
  · rintro ⟨unit, hunit, cast, hcast, _, ⟨hfits, hsupply, rfl⟩, hturn⟩
    have hsame := SetToken.defaultRealUnit_of_ok hunit hcast
    rw [SafeCast.toUint256_eq_ok] at hcast
    subst hcast hsame
    refine ⟨hunit, hfits, hsupply, ?_⟩
    split at hturn
    · rename_i hne
      exact Or.inr ⟨hne, by simpa only [bind_eq_ok, pure_eq_ok] using hturn⟩
    · rename_i heq
      exact Or.inl ⟨not_not.mp heq, pure_eq_ok.mp hturn⟩
  · rintro ⟨hunit, hfits, hsupply, hturn⟩
    refine ⟨_, hunit, _, SafeCast.toUint256_eq_ok.mpr rfl, _, ⟨hfits, hsupply, rfl⟩, ?_⟩
    rcases hturn with ⟨heq, rfl⟩ | ⟨hne, hedit⟩
    · rw [if_neg (not_not.mpr heq)]
      rfl
    · rw [if_pos hne]
      simpa only [bind_eq_ok, pure_eq_ok] using hedit

/-- What is converted can be converted back. -/
theorem fits_of_convert {setToken : SetToken} {newUnit : ℕ} {virtualUnit : ℤ}
    (hmultiplier : 0 < setToken.positionMultiplier)
    (hconvert : setToken.convertRealToVirtualUnit newUnit = .ok virtualUnit) :
    FitsInt256 (virtualUnit * setToken.positionMultiplier) := by
  simp only [SetToken.convertRealToVirtualUnit, bind_eq_ok,
    conservativePreciseDiv_eq_ok hmultiplier] at hconvert
  obtain ⟨_, ⟨-, rfl⟩, hchecks⟩ := hconvert
  split at hchecks
  · simp only [bind_eq_ok, pure_eq_ok, SetToken.convertVirtualToRealUnit_eq_ok] at hchecks
    obtain ⟨_, -, _, ⟨hfits, -⟩, _, -, rfl⟩ := hchecks
    exact hfits
  · rename_i hzero
    obtain rfl : newUnit = 0 := by omega
    rw [pure_eq_ok] at hchecks
    subst hchecks
    simp only [Nat.cast_zero, zero_mul, Int.zero_ediv]
    decide

theorem guard_of_edit {setToken edited : SetToken} {controller : Controller} {newUnit : ℕ}
    (hcall : Position.editDefaultPosition setToken controller module component newUnit =
      .ok edited) : setToken.onlyModuleWhenLockedOnlyLocker controller module = .ok () := by
  simp only [Position.editDefaultPosition, bind_eq_ok,
    SetToken.editDefaultPositionUnit_eq_ok] at hcall
  obtain ⟨found, -, listed, hlisted, _, -, hguard, -⟩ := hcall
  split at hlisted
  · split at hlisted
    · exact (SetToken.addComponent_eq_ok.mp hlisted).1
    · exact Except.ok.inj hlisted ▸ hguard
  · split at hlisted
    · split at hlisted
      · exact (SetToken.removeComponent_eq_ok hlisted).1
      · exact Except.ok.inj hlisted ▸ hguard
    · exact Except.ok.inj hlisted ▸ hguard

/-- A turn that edits writes a unit that can be read, and changes nothing else. -/
theorem edit_written {newUnit : ℕ} {edited : SetToken} (hkept : Bookkept chain.setToken)
    (hcall : Position.editDefaultPosition chain.setToken chain.controller module component
      newUnit = .ok edited) :
    Bookkept edited ∧ OnlyUnits chain (chain.withSetToken edited) ∧
      edited.getDefaultPositionRealUnit component =
        .ok (edited.defaultRealUnit component : ℤ) ∧
      edited.convertRealToVirtualUnit newUnit =
        .ok (edited.defaultPositionVirtualUnit component) ∧
      ∀ other, other ≠ component →
        edited.componentPositions other = chain.setToken.componentPositions other := by
  have hedited := hkept.editDefaultPosition hcall
  obtain ⟨_, virtualUnit, components, -, hconvert, rfl, -⟩ :=
    Position.editDefaultPosition_eq_ok hcall
  have hvirtual : ((chain.setToken.withComponents components).withPosition component
      { chain.setToken.componentPositions component with
        virtualUnit := virtualUnit }).defaultPositionVirtualUnit component = virtualUnit := by
    simp [SetToken.defaultPositionVirtualUnit, SetToken.withPosition]
  refine ⟨hedited, ⟨rfl, rfl, rfl, rfl, fun other => ?_⟩, ?_, ?_, fun other hother => ?_⟩
  · by_cases heq : other = component
    · simp [heq, SetToken.getExternalPositionModules, SetToken.withPosition,
        Chain.withSetToken]
    · simp [heq, SetToken.getExternalPositionModules, SetToken.withPosition,
        SetToken.withComponents, Chain.withSetToken]
  · rw [RebalanceTargets.readable_iff hedited, hvirtual]
    exact fits_of_convert hkept.multiplier_pos hconvert
  · rw [hvirtual]
    exact hconvert
  · exact Function.update_of_ne hother _ _

/-- What is written already is written again. -/
theorem edit_again {setToken : SetToken} {controller : Controller} {newUnit : ℕ}
    (hkept : Bookkept setToken)
    (hguard : setToken.onlyModuleWhenLockedOnlyLocker controller module = .ok ())
    (hread : setToken.getDefaultPositionRealUnit component =
      .ok (setToken.defaultRealUnit component : ℤ))
    (hwritten : setToken.convertRealToVirtualUnit newUnit =
      .ok (setToken.defaultPositionVirtualUnit component)) :
    Position.editDefaultPosition setToken controller module component newUnit =
      .ok setToken := by
  obtain ⟨-, hforward, -⟩ :=
    SetToken.convertRealToVirtualUnit_sign hkept.multiplier_pos hwritten
  have hsign := hkept.sign_of_default hread
  rw [hforward] at hsign
  have hfound : 0 < (setToken.defaultRealUnit component : ℤ) ↔ 0 < (newUnit : ℤ) := by
    rw [← Int.sign_eq_one_iff_pos, hsign, Int.sign_eq_one_iff_pos]
  have hfits : (newUnit : ℤ) ≤ maxInt256 := by
    simp only [SetToken.convertRealToVirtualUnit, bind_eq_ok,
      conservativePreciseDiv_eq_ok hkept.multiplier_pos] at hwritten
    obtain ⟨_, ⟨hproduct, -⟩, -⟩ := hwritten
    refine le_trans ?_ hproduct.2
    exact le_mul_of_one_le_right (Int.natCast_nonneg _) (by decide)
  have hlisted : (if decide (0 < (setToken.defaultRealUnit component : ℤ)) = false ∧
      0 < newUnit then
        if Position.hasExternalPosition setToken component = false then
          setToken.addComponent controller module component
        else .ok setToken
      else if decide (0 < (setToken.defaultRealUnit component : ℤ)) = true ∧ newUnit = 0 then
        if Position.hasExternalPosition setToken component = false then
          setToken.removeComponent controller module component
        else .ok setToken
      else .ok setToken) = .ok setToken := by
    rw [if_neg, if_neg]
    · rintro ⟨hold, rfl⟩
      rw [decide_eq_true_eq, hfound] at hold
      exact lt_irrefl _ hold
    · rintro ⟨hold, hnew⟩
      rw [decide_eq_false_iff_not, hfound] at hold
      exact hold (by exact_mod_cast hnew)
  simp only [Position.editDefaultPosition, Position.hasDefaultPosition, bind_eq_ok,
    pure_eq_ok, SafeCast.toInt256_eq_ok, SetToken.editDefaultPositionUnit_eq_ok]
  refine ⟨_, ⟨_, hread, rfl⟩, setToken, hlisted, _, ⟨hfits, rfl⟩, hguard, _, hwritten, ?_⟩
  have hsame : ({ setToken.componentPositions component with
      virtualUnit := setToken.defaultPositionVirtualUnit component } : ComponentPosition) =
        setToken.componentPositions component := rfl
  rw [hsame, SetToken.withPosition, Function.update_eq_self]

/-- Each turn brings its own component up to date. -/
theorem upToDate_of_turn (hkept : Bookkept chain.setToken)
    (hturn : syncComponent module supply chain component = .ok next) :
    Bookkept next.setToken ∧ OnlyUnits chain next ∧ UpToDate module supply component next ∧
      ∀ other, other ≠ component →
        next.setToken.componentPositions other = chain.setToken.componentPositions other := by
  obtain ⟨hread, hfits, hsupply, ⟨heq, rfl⟩ | ⟨-, setToken, hedit, rfl⟩⟩ :=
    syncComponent_eq_ok.mp hturn
  · exact ⟨hkept, OnlyUnits.refl chain, ⟨hsupply, hfits, hread, Or.inl heq⟩, fun _ _ => rfl⟩
  · obtain ⟨hedited, honly, hwritten, hconvert, hothers⟩ := edit_written hkept hedit
    refine ⟨hedited, honly, ⟨hsupply, ?_, hwritten, Or.inr ⟨?_, hconvert⟩⟩, hothers⟩
    · rw [honly.heldBalance]
      exact hfits
    · rw [honly.guard]
      exact guard_of_edit hedit

/-- Whether a component is up to date depends on its own positions only. -/
theorem UpToDate.of_same (hdate : UpToDate module supply component chain)
    (honly : OnlyUnits chain next)
    (hposition : next.setToken.componentPositions component =
      chain.setToken.componentPositions component) :
    UpToDate module supply component next := by
  have hvirtual : next.setToken.defaultPositionVirtualUnit component =
      chain.setToken.defaultPositionVirtualUnit component := by
    rw [SetToken.defaultPositionVirtualUnit, hposition]
    rfl
  have hunit : next.setToken.defaultRealUnit component =
      chain.setToken.defaultRealUnit component := by
    rw [SetToken.defaultRealUnit, hvirtual, honly.multiplier]
    rfl
  have hspread : spread supply next component = spread supply chain component := by
    rw [spread, honly.heldBalance]
    rfl
  refine ⟨hdate.supply_pos, ?_, ?_, ?_⟩
  · rw [honly.heldBalance]
    exact hdate.fits
  · rw [hunit, ← hdate.read, SetToken.getDefaultPositionRealUnit,
      SetToken.convertVirtualToRealUnit, hvirtual, honly.multiplier]
    rfl
  · rw [hunit, hspread, honly.guard, hvirtual, SetToken.convertRealToVirtualUnit,
      honly.multiplier]
    simp only [SetToken.convertVirtualToRealUnit, honly.multiplier]
    exact hdate.current

/-- No turn puts another component out of date. -/
theorem UpToDate.after_turn {other : Address} (hdate : UpToDate module supply other chain)
    (hkept : Bookkept chain.setToken)
    (hturn : syncComponent module supply chain component = .ok next) :
    UpToDate module supply other next := by
  obtain ⟨-, honly, hself, hothers⟩ := upToDate_of_turn hkept hturn
  by_cases heq : other = component
  · rw [heq]
    exact hself
  · exact hdate.of_same honly (hothers other heq)

/-- A turn leaves what is up to date alone. -/
theorem UpToDate.turn (hdate : UpToDate module supply component chain)
    (hkept : Bookkept chain.setToken) :
    syncComponent module supply chain component = .ok chain := by
  rw [syncComponent_eq_ok]
  refine ⟨hdate.read, hdate.fits, hdate.supply_pos, ?_⟩
  by_cases heq : chain.setToken.defaultRealUnit component = spread supply chain component
  · exact Or.inl ⟨heq, rfl⟩
  · obtain ⟨hguard, hwritten⟩ := hdate.current.resolve_left heq
    exact Or.inr ⟨heq, chain.setToken, edit_again hkept hguard hdate.read hwritten, rfl⟩

/-- The unit spreads the balance over the shares, up to rounding. -/
theorem UpToDate.bounds (hdate : UpToDate module supply component chain)
    (hkept : Bookkept chain.setToken) :
    supply * chain.setToken.defaultRealUnit component ≤
        chain.heldBalance component * preciseUnit ∧
      chain.heldBalance component * preciseUnit <
        supply * (chain.setToken.defaultRealUnit component + 1 +
          chain.setToken.positionMultiplier.toNat ⌈/⌉ preciseUnit) := by
  have hunit : chain.setToken.defaultRealUnit component ≤ spread supply chain component ∧
      spread supply chain component ≤ chain.setToken.defaultRealUnit component +
        chain.setToken.positionMultiplier.toNat ⌈/⌉ preciseUnit := by
    rcases hdate.current with heq | ⟨-, hwritten⟩
    · rw [heq]
      exact ⟨le_rfl, Nat.le_add_right _ _⟩
    · obtain ⟨hvirtual, -, -⟩ :=
        SetToken.convertRealToVirtualUnit_sign hkept.multiplier_pos hwritten
      have hback : (chain.setToken.defaultRealUnit component : ℤ) =
          SetToken.unitBack chain.setToken.positionMultiplier
            (spread supply chain component) := by
        rw [RebalanceTargets.defaultRealUnit_cast hkept, hvirtual]
        rfl
      have hle : SetToken.unitBack chain.setToken.positionMultiplier
          (spread supply chain component) ≤ spread supply chain component :=
        SetToken.unitBack_le hkept.multiplier_pos
      have hge : (spread supply chain component : ℤ) -
          (chain.setToken.positionMultiplier.toNat ⌈/⌉ preciseUnit : ℕ) ≤
            SetToken.unitBack chain.setToken.positionMultiplier
              (spread supply chain component) :=
        SetToken.le_unitBack hkept.multiplier_pos
      rw [← hback] at hle hge
      omega
  constructor
  · calc supply * chain.setToken.defaultRealUnit component
        ≤ supply * spread supply chain component := Nat.mul_le_mul_left _ hunit.1
      _ ≤ chain.heldBalance component * preciseUnit := Nat.mul_div_le _ _
  · calc chain.heldBalance component * preciseUnit
        < supply * (spread supply chain component + 1) :=
          Nat.lt_mul_div_succ _ hdate.supply_pos
      _ ≤ supply * (chain.setToken.defaultRealUnit component + 1 +
          chain.setToken.positionMultiplier.toNat ⌈/⌉ preciseUnit) :=
        Nat.mul_le_mul_left _ (by omega)

/-! ## The whole sync -/

/-- What the loop has not touched. -/
structure Syncing (storage : Storage) (chain state : Chain) : Prop where
  bookkept : Bookkept state.setToken
  only_units : OnlyUnits chain state
  others : ∀ component ∉ storage.rebasingComponents,
    state.setToken.componentPositions component = chain.setToken.componentPositions component

theorem Syncing.turn (hstate : Syncing storage chain state)
    (hcomponent : component ∈ storage.rebasingComponents)
    (hturn : syncComponent module supply state component = .ok next) :
    Syncing storage chain next ∧ UpToDate module supply component next ∧
      ∀ other, UpToDate module supply other state → UpToDate module supply other next := by
  obtain ⟨hnext, honly, hself, hothers⟩ := upToDate_of_turn hstate.bookkept hturn
  refine ⟨⟨hnext, hstate.only_units.trans honly, fun other hother => ?_⟩, hself,
    fun other hdate => hdate.after_turn hstate.bookkept hturn⟩
  have hne : other ≠ component := fun heq => hother (heq ▸ hcomponent)
  rw [hothers other hne, hstate.others other hother]

/-- After the loop every listed component is up to date. -/
theorem sync_eq_ok (hkept : Bookkept chain.setToken)
    (hcall : sync module storage chain = .ok after) :
    chain.isSetValidAndInitialized module ∧ Bookkept after.setToken ∧ OnlyUnits chain after ∧
      (0 < chain.setToken.totalSupply → ∀ component ∈ storage.rebasingComponents,
        UpToDate module chain.setToken.totalSupply component after) ∧
      ∀ component ∉ storage.rebasingComponents,
        after.setToken.componentPositions component =
          chain.setToken.componentPositions component := by
  simp only [sync, Chain.validateOnlyValidAndInitializedSet, bind_eq_ok, require_eq_ok] at hcall
  obtain ⟨_, hvalid, hcall⟩ := hcall
  split at hcall
  · rename_i hsupply
    obtain ⟨hfinal, hdate, -⟩ := foldlM_settles
      (fun component hcomponent state next (hstate : Syncing storage chain state) hturn =>
        hstate.turn hcomponent hturn) ⟨hkept, OnlyUnits.refl chain, fun _ _ => rfl⟩ hcall
    exact ⟨hvalid, hfinal.bookkept, hfinal.only_units, fun _ => hdate, hfinal.others⟩
  · rename_i hsupply
    rw [pure_eq_ok] at hcall
    subst hcall
    exact ⟨hvalid, hkept, OnlyUnits.refl chain, fun hpositive => absurd hpositive hsupply,
      fun _ _ => rfl⟩

/-- A second sync finds nothing to do. -/
theorem sync_again (hvalid : chain.isSetValidAndInitialized module)
    (hkept : Bookkept chain.setToken)
    (hdate : 0 < chain.setToken.totalSupply → ∀ component ∈ storage.rebasingComponents,
      UpToDate module chain.setToken.totalSupply component chain) :
    sync module storage chain = .ok chain := by
  simp only [sync, Chain.validateOnlyValidAndInitializedSet, bind_eq_ok, require_eq_ok]
  refine ⟨(), hvalid, ?_⟩
  split
  · rename_i hsupply
    have hlisted := hdate hsupply
    generalize storage.rebasingComponents = components at hlisted ⊢
    induction components with
    | nil => rfl
    | cons component components ih =>
        rw [List.foldlM_cons, (hlisted component List.mem_cons_self).turn hkept, ok_bind]
        exact ih fun other hother => hlisted other (List.mem_cons_of_mem component hother)
  · rfl

/-- A sync writes, for every listed component and no other, the unit that spreads its whole
balance over the shares, up to rounding in favour of the SetToken; it moves nothing, and
whoever syncs again changes nothing. -/
theorem sync_exact (hkept : Bookkept chain.setToken)
    (hcall : sync module storage chain = .ok after) :
    OnlyUnits chain after ∧
      (0 < chain.setToken.totalSupply → ∀ component ∈ storage.rebasingComponents,
        chain.setToken.totalSupply * after.setToken.defaultRealUnit component ≤
            chain.heldBalance component * preciseUnit ∧
          chain.heldBalance component * preciseUnit <
            chain.setToken.totalSupply * (after.setToken.defaultRealUnit component + 1 +
              chain.setToken.positionMultiplier.toNat ⌈/⌉ preciseUnit)) ∧
      (∀ component ∉ storage.rebasingComponents,
        after.setToken.componentPositions component =
          chain.setToken.componentPositions component) ∧
      Bookkept after.setToken ∧
      sync module storage after = .ok after := by
  obtain ⟨hvalid, hafter, honly, hdate, hothers⟩ := sync_eq_ok hkept hcall
  refine ⟨honly, fun hsupply component hcomponent => ?_, hothers, hafter, ?_⟩
  · have hbounds := (hdate hsupply component hcomponent).bounds hafter
    rw [honly.heldBalance, honly.multiplier] at hbounds
    exact hbounds
  · apply sync_again
    · rw [Chain.isSetValidAndInitialized, honly.controller, honly.setTokenAddress,
        honly.setToken]
      exact hvalid
    · exact hafter
    · rw [honly.totalSupply]
      exact hdate

/-- Ten shares of two units each of a rebasing token, which this module is to sync. -/
def rebasingWorld : World where
  toChain := {
    controller := { Controller.deploy 1 2 with
      isSet := fun setToken => setToken == 9
      isModule := fun module => module == 5 || module == 6 }
    setTokenAddress := 9
    setToken := { SetToken.deploy [10] [2 * 10 ^ 18] [5, 6] 7 with
      moduleStates := fun module =>
        if module = 5 ∨ module = 6 then .INITIALIZED else .NONE
      totalSupply := 10 }
    balances := fun token holder =>
      if token = 10 then (if holder = 9 then 21 else 1000) else if holder = 3 then 10 else 0
    timestamp := 0 }
  issuanceSettings := { DebtIssuanceModule.noSettings with moduleIssuanceHooks := [6] }
  environment := ⟨fun component => component == 10, [10]⟩

theorem bookkept_rebasingWorld : Bookkept rebasingWorld.setToken := by
  have hdeployed : Bookkept (SetToken.deploy [10] [2 * 10 ^ 18] [5, 6] 7) :=
    SetTokenCreator.bookkept_deploy (by decide) (by decide) (by decide)
  exact hdeployed.of_same_positions rfl rfl rfl

/-- Three quarters of the balance vanish. -/
def slashedLedger (holder : Address) : ℕ := if holder = 9 then 5 else 1000

/-- Half a unit a share is what is left. -/
theorem sync_exact_slashed :
    ∃ after,
      sync 6 rebasingWorld.environment (rebasingWorld.withLedger 10 slashedLedger) = .ok after ∧
      after.setToken.defaultRealUnit 10 = 5 * 10 ^ 17 ∧
      sync 6 rebasingWorld.environment after = .ok after := by
  have hkept : Bookkept (rebasingWorld.withLedger 10 slashedLedger).setToken :=
    bookkept_rebasingWorld
  obtain ⟨after, hsync, hunit⟩ := returns_iff.mp (by decide +kernel : Returns
    (sync 6 rebasingWorld.environment (rebasingWorld.withLedger 10 slashedLedger))
    fun after => after.setToken.defaultRealUnit 10 = 5 * 10 ^ 17)
  exact ⟨after, hsync, hunit, (sync_exact hkept hsync).2.2.2.2⟩

end SetProtocol.RebasingComponentModule
