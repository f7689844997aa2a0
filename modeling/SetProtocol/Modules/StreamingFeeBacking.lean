import SetProtocol.Modules.StreamingFeeModule

/-!
# Accrual and full collateralization

Accruing a fee inflates the supply and lowers the multiplier by the same
percentage, but the real units are rounded down from the multiplier.  A unit that
was already rounded may not fall at all, and then the inflated supply is owed
more than before.  Whatever the supply, the balances and the protocol's split,
accrual keeps a Set collateralized exactly when each real unit falls by at least
the fee.
-/

namespace SetProtocol.StreamingFeeModule

open Transaction PreciseUnitMath Backing

variable {module : Address} {world next : World}

/-- The fee percentage that has accrued since the last time. -/
def accruedFee (world : World) : ℕ :=
  (world.timestamp - world.feeState.lastStreamingFeeTimestamp) *
    world.feeState.streamingFeePercentage / oneYearInSeconds

/-- The multiplier less a fee percentage. -/
def reducedMultiplier (setToken : SetToken) (fee : ℕ) : ℤ :=
  (setToken.positionMultiplier * (preciseUnit - fee : ℕ)).tdiv preciseUnitInt

/-- The default real unit of a component under the reduced multiplier. -/
def reducedUnit (setToken : SetToken) (fee : ℕ) (component : Address) : ℕ :=
  (realUnit (reducedMultiplier setToken fee)
    (setToken.defaultPositionVirtualUnit component)).toNat

/-- Each real unit falls by at least the fee percentage. -/
def UnitsFall (setToken : SetToken) (fee : ℕ) : Prop :=
  ∀ component ∈ setToken.components,
    reducedUnit setToken fee component * preciseUnit ≤
      setToken.defaultRealUnit component * (preciseUnit - fee)

theorem calculateStreamingFee_eq_ok {fee : ℕ}
    (hfee : calculateStreamingFee world = .ok fee) : fee = accruedFee world := by
  simp only [calculateStreamingFee, bind_eq_ok, SafeMath.sub_eq_ok, SafeMath.mul_eq_ok,
    SafeMath.div_eq_ok] at hfee
  obtain ⟨_, ⟨-, rfl⟩, _, ⟨-, rfl⟩, -, hresult⟩ := hfee
  exact hresult.symm

theorem calculateStreamingFeeInflation_eq_ok {setToken : SetToken} {fee quantity : ℕ} :
    calculateStreamingFeeInflation setToken fee = .ok quantity ↔
      fee * setToken.totalSupply ≤ maxUint256 ∧ fee < preciseUnit ∧
        fee * setToken.totalSupply / (preciseUnit - fee) = quantity := by
  simp only [calculateStreamingFeeInflation, bind_eq_ok, SafeMath.sub_eq_ok,
    SafeMath.mul_eq_ok, SafeMath.div_eq_ok]
  constructor
  · rintro ⟨_, ⟨hfits, rfl⟩, _, ⟨-, rfl⟩, hpositive, hquantity⟩
    exact ⟨hfits, Nat.lt_of_sub_pos hpositive, hquantity⟩
  · rintro ⟨hfits, hless, hquantity⟩
    exact ⟨_, ⟨hfits, rfl⟩, _, ⟨hless.le, rfl⟩, Nat.sub_pos_of_lt hless, hquantity⟩

/-- All of the fee is minted, whatever the split. -/
theorem mintManagerAndProtocolFee_eq_ok {feeQuantity managerFee protocolFee : ℕ}
    {chain : Chain}
    (hcall : mintManagerAndProtocolFee module world feeQuantity =
      .ok (chain, managerFee, protocolFee)) :
    chain.setTokenAddress = world.setTokenAddress ∧ chain.controller = world.controller ∧
      chain.setToken = { world.setToken with
        totalSupply := world.setToken.totalSupply + feeQuantity } ∧
      ∀ token, token ≠ world.setTokenAddress →
        chain.heldBalance token = world.heldBalance token := by
  simp only [mintManagerAndProtocolFee, bind_eq_ok, preciseMul_eq_ok, SafeMath.sub_eq_ok,
    pure_eq_ok, Prod.mk.injEq] at hcall
  obtain ⟨share, ⟨-, -⟩, _, ⟨hshare, rfl⟩, managed, hmanager, final, hprotocol, rfl, -, -⟩ :=
    hcall
  obtain ⟨haddress, hsetToken, -⟩ := Chain.mint_holdings hmanager
  have hcontroller : managed.controller = world.controller := by
    obtain ⟨-, -, rfl⟩ := Chain.mint_eq_ok hmanager
    rfl
  split at hprotocol
  · obtain ⟨haddress', hsetToken', -⟩ := Chain.mint_holdings hprotocol
    have hcontroller' : final.controller = managed.controller := by
      obtain ⟨-, -, rfl⟩ := Chain.mint_eq_ok hprotocol
      rfl
    refine ⟨haddress'.trans haddress, hcontroller'.trans hcontroller, ?_, fun token hother => ?_⟩
    · rw [hsetToken', hsetToken]
      simp only [Nat.add_assoc, Nat.sub_add_cancel hshare]
    · rw [Chain.mint_other_tokens hprotocol (by rw [haddress]; exact hother),
        Chain.mint_other_tokens hmanager hother]
  · rename_i hnone
    cases hprotocol
    refine ⟨haddress, hcontroller, ?_, fun token hother =>
      Chain.mint_other_tokens hmanager hother⟩
    have hzero : share = 0 := by omega
    rw [hsetToken, hzero, Nat.sub_zero]

/-- Lowering the multiplier, checked by the SetToken. -/
theorem editPositionMultiplier_eq_ok {chain reached : Chain} {fee : ℕ} :
    editPositionMultiplier module chain fee = .ok reached ↔
      fee ≤ preciseUnit ∧
        FitsInt256 (chain.setToken.positionMultiplier * (preciseUnit - fee : ℕ)) ∧
        chain.setToken.onlyModuleWhenLockedOnlyLocker chain.controller module = .ok () ∧
        chain.setToken.validateNewMultiplier (reducedMultiplier chain.setToken fee) =
          .ok () ∧
        chain.withSetToken { chain.setToken with
          positionMultiplier := reducedMultiplier chain.setToken fee } = reached := by
  have hcast : ∀ remaining, remaining ≤ preciseUnit → (remaining : ℤ) ≤ maxInt256 := by
    intro remaining hremaining
    have hsmall : (remaining : ℤ) ≤ preciseUnit := by exact_mod_cast hremaining
    exact hsmall.trans (by decide)
  simp only [editPositionMultiplier, bind_eq_ok, SafeMath.sub_eq_ok,
    SafeCast.toInt256_eq_ok, preciseMulInt_eq_ok, SetToken.editPositionMultiplier_eq_ok,
    pure_eq_ok]
  constructor
  · rintro ⟨_, ⟨hfee, rfl⟩, _, ⟨-, rfl⟩, _, ⟨hfits, rfl⟩, _, ⟨hguard, hvalid, rfl⟩, rfl⟩
    exact ⟨hfee, hfits, hguard, hvalid, rfl⟩
  · rintro ⟨hfee, hfits, hguard, hvalid, rfl⟩
    exact ⟨_, ⟨hfee, rfl⟩, _, ⟨hcast _ (Nat.sub_le _ _), rfl⟩, _, ⟨hfits, rfl⟩, _,
      ⟨hguard, hvalid, rfl⟩, rfl⟩

theorem reducedMultiplier_zero (setToken : SetToken) :
    reducedMultiplier setToken 0 = setToken.positionMultiplier := by
  simp [reducedMultiplier, Int.mul_tdiv_cancel _ preciseUnitInt_pos.ne']

/-- Accrual inflates the supply, reduces the multiplier, and moves no token. -/
theorem accrueFee_eq_ok (hcall : accrueFee module world = .ok next) :
    accruedFee world < preciseUnit ∧
      next.setTokenAddress = world.setTokenAddress ∧
      next.setToken = { world.setToken with
        totalSupply := inflated preciseUnit (accruedFee world) world.setToken.totalSupply
        positionMultiplier := reducedMultiplier world.setToken (accruedFee world) } ∧
      ∀ token, token ≠ world.setTokenAddress →
        next.heldBalance token = world.heldBalance token := by
  simp only [accrueFee, bind_eq_ok, pure_eq_ok] at hcall
  obtain ⟨_, -, accrued, haccrued, rfl⟩ := hcall
  split at haccrued
  · simp only [bind_eq_ok] at haccrued
    obtain ⟨fee, hfee, quantity, hquantity, ⟨chain, managerFee, protocolFee⟩, hminted,
      hedited⟩ := haccrued
    obtain rfl := calculateStreamingFee_eq_ok hfee
    obtain ⟨-, hless, rfl⟩ := calculateStreamingFeeInflation_eq_ok.mp hquantity
    obtain ⟨haddress, -, hsetToken, hholdings⟩ := mintManagerAndProtocolFee_eq_ok hminted
    obtain ⟨-, -, -, -, rfl⟩ := editPositionMultiplier_eq_ok.mp hedited
    refine ⟨hless, haddress, ?_, fun token hother => hholdings token hother⟩
    simp only [World.withChain, Chain.withSetToken, hsetToken, reducedMultiplier]
    rfl
  · rename_i hnone
    cases haccrued
    have hzero : accruedFee world = 0 := by
      have hpercentage : world.feeState.streamingFeePercentage = 0 := by omega
      simp [accruedFee, hpercentage]
    rw [hzero, reducedMultiplier_zero]
    refine ⟨preciseUnit_pos, rfl, ?_, fun _ _ => rfl⟩
    simp [World.withChain, inflated]

theorem defaultRealUnit_of_accrual (hcall : accrueFee module world = .ok next)
    (component : Address) :
    next.setToken.defaultRealUnit component =
      reducedUnit world.setToken (accruedFee world) component := by
  obtain ⟨-, -, hsetToken, -⟩ := accrueFee_eq_ok hcall
  rw [hsetToken]
  rfl

/-! ## When accrual keeps the Set collateralized -/

/-- The same positions and fee, with another supply, other balances and another
protocol split. -/
def World.withHoldings (world : World) (module : Address) (totalSupply : ℕ)
    (balances : Address → Address → ℕ) (split : ℕ) : World :=
  world.withChain { world.toChain with
    controller := world.controller.setFee module protocolStreamingFeeIndex split
    setToken := { world.setToken with totalSupply := totalSupply }
    balances := balances }

theorem tracked_of_unitsFall (hshare : world.setTokenAddress ∉ world.setToken.components)
    (hfalls : UnitsFall world.setToken (accruedFee world))
    (htracked : world.Tracked) (hcall : accrueFee module world = .ok next) :
    next.Tracked := by
  obtain ⟨hless, -, hsetToken, hholdings⟩ := accrueFee_eq_ok hcall
  intro component hcomponent
  rw [hsetToken] at hcomponent
  have hother : component ≠ world.setTokenAddress := fun heq => hshare (heq ▸ hcomponent)
  rw [defaultRealUnit_of_accrual hcall, hholdings component hother, hsetToken]
  have howed := inflated_owed_le world.setToken.totalSupply preciseUnit_pos hless.le
    (hfalls component hcomponent)
  exact (Nat.div_le_div_right howed).trans (htracked component hcomponent)

/-- Balances that hold exactly the tracked amounts, with no shares given out. -/
def exactBalances (world : World) (totalSupply : ℕ) : Address → Address → ℕ :=
  fun token holder =>
    if token ≠ world.setTokenAddress ∧ holder = world.setTokenAddress then
      totalSupply * world.setToken.defaultRealUnit token / preciseUnit
    else 0

theorem mint_of_withHoldings {supply quantity : ℕ} {fee : ℕ} {chain reached : Chain}
    {managerFee protocolFee minted : ℕ}
    (hminted : mintManagerAndProtocolFee module world minted =
      .ok (chain, managerFee, protocolFee))
    (hedited : editPositionMultiplier module chain fee = .ok reached)
    (hfits : supply + quantity ≤ maxUint256) :
    ∃ managed, mintManagerAndProtocolFee module
      (world.withHoldings module supply (exactBalances world supply) 0) quantity =
        .ok (managed, quantity, 0) := by
  obtain ⟨-, hcontroller, hsetToken, -⟩ := mintManagerAndProtocolFee_eq_ok hminted
  obtain ⟨-, -, hguard, -, -⟩ := editPositionMultiplier_eq_ok.mp hedited
  rw [hsetToken, hcontroller] at hguard
  have hrecipient : world.feeState.feeRecipient ≠ zeroAddress := by
    simp only [mintManagerAndProtocolFee, bind_eq_ok] at hminted
    obtain ⟨_, -, _, -, managed, hmanager, -⟩ := hminted
    exact (Chain.mint_checks hmanager).2
  have hempty : (world.withHoldings module supply (exactBalances world supply) 0).balanceOf
      world.setTokenAddress world.feeState.feeRecipient = 0 := by
    simp [World.withHoldings, World.withChain, Chain.balanceOf, exactBalances]
  obtain ⟨managed, hmanaged⟩ : ∃ managed,
      (world.withHoldings module supply (exactBalances world supply) 0).mint module
        world.feeState.feeRecipient quantity = .ok managed := by
    refine Chain.mint_of_fits hguard hrecipient hfits ?_
    rw [show (world.withHoldings module supply (exactBalances world supply)
      0).setTokenAddress = world.setTokenAddress from rfl, hempty]
    omega
  have hsplit : (world.withHoldings module supply (exactBalances world supply)
      0).controller.getModuleFee module protocolStreamingFeeIndex = 0 := by
    simp [World.withHoldings, World.withChain, Controller.setFee, Controller.getModuleFee]
  refine ⟨managed, ?_⟩
  simp only [mintManagerAndProtocolFee, hsplit, bind_eq_ok, preciseMul_eq_ok,
    SafeMath.sub_eq_ok, pure_eq_ok, Nat.mul_zero, Nat.zero_div]
  exact ⟨0, ⟨Nat.zero_le _, rfl⟩, _, ⟨Nat.zero_le _, rfl⟩, managed, hmanaged, managed,
    rfl, rfl⟩

/-- If accrual returns at all, it also returns for every supply that leaves room for
the fee. -/
theorem accrueFee_of_supply
    (hpercentage : 0 < world.feeState.streamingFeePercentage)
    (hcall : accrueFee module world = .ok next) {supply : ℕ}
    (hscaled : accruedFee world * supply ≤ maxUint256)
    (hfits : inflated preciseUnit (accruedFee world) supply ≤ maxUint256) :
    ∃ other, accrueFee module (world.withHoldings module supply
      (exactBalances world supply) 0) = .ok other := by
  simp only [accrueFee, hpercentage, if_true, bind_eq_ok] at hcall
  obtain ⟨_, hvalid, _, ⟨fee, hfee, quantity, hquantity, ⟨chain, managerFee, protocolFee⟩,
    hminted, hedited⟩, -⟩ := hcall
  obtain rfl := calculateStreamingFee_eq_ok hfee
  obtain ⟨-, hless, -⟩ := calculateStreamingFeeInflation_eq_ok.mp hquantity
  obtain ⟨managed, hmanaged⟩ := mint_of_withHoldings hminted hedited hfits
  obtain ⟨-, hcontroller, hsetToken, -⟩ := mintManagerAndProtocolFee_eq_ok hminted
  obtain ⟨hbound, hproduct, hguard, hmultiplier, -⟩ :=
    editPositionMultiplier_eq_ok.mp hedited
  rw [hsetToken] at hproduct hguard hmultiplier
  rw [hcontroller] at hguard
  obtain ⟨-, hcontroller', hsetToken', -⟩ := mintManagerAndProtocolFee_eq_ok hmanaged
  obtain ⟨reached, hreached⟩ : ∃ reached,
      editPositionMultiplier module managed (accruedFee world) = .ok reached := by
    refine ⟨_, editPositionMultiplier_eq_ok.mpr ⟨hbound, ?_, ?_, ?_, rfl⟩⟩
    · rw [hsetToken']
      exact hproduct
    · rw [hsetToken', hcontroller']
      exact hguard
    · rw [hsetToken']
      exact hmultiplier
  have hstart : 0 < (world.withHoldings module supply (exactBalances world supply)
      0).feeState.streamingFeePercentage := hpercentage
  simp only [accrueFee, hstart, if_true, bind_eq_ok, pure_eq_ok]
  exact ⟨_, (), hvalid, reached, ⟨_, hfee, _,
    calculateStreamingFeeInflation_eq_ok.mpr ⟨hscaled, hless, rfl⟩, _, hmanaged, hreached⟩,
    rfl⟩

theorem accruedFee_of_no_percentage (hnone : ¬0 < world.feeState.streamingFeePercentage) :
    accruedFee world = 0 := by
  have hzero : world.feeState.streamingFeePercentage = 0 := by omega
  simp [accruedFee, hzero]

/-- Over a supply that the fee divides, holding no more than the tracked amounts, a
unit that falls by less than the fee is owed more than there is. -/
theorem unitsFall_of_tracked (hshare : world.setTokenAddress ∉ world.setToken.components)
    (hcall : accrueFee module world = .ok next)
    (htracked : ∀ supply balances split other,
      accrueFee module (world.withHoldings module supply balances split) = .ok other →
      (world.withHoldings module supply balances split).Tracked → other.Tracked) :
    UnitsFall world.setToken (accruedFee world) := by
  intro component hcomponent
  by_cases hpercentage : 0 < world.feeState.streamingFeePercentage
  · obtain ⟨hless, -⟩ := accrueFee_eq_ok hcall
    have hcube : preciseUnit * (preciseUnit * preciseUnit) ≤ maxUint256 := by decide
    have hsquare : preciseUnit * preciseUnit ≤ maxUint256 := by decide
    have hmultiple := inflated_of_multiple hless
    have hscaled : accruedFee world * ((preciseUnit - accruedFee world) * preciseUnit) ≤
        maxUint256 :=
      (Nat.mul_le_mul hless.le (Nat.mul_le_mul_right _ (Nat.sub_le _ _))).trans hcube
    obtain ⟨other, hother⟩ := accrueFee_of_supply hpercentage hcall hscaled
      (by rw [hmultiple]; exact hsquare)
    have hbalance : ∀ token ∈ world.setToken.components,
        (world.withHoldings module ((preciseUnit - accruedFee world) * preciseUnit)
          (exactBalances world ((preciseUnit - accruedFee world) * preciseUnit))
            0).heldBalance token =
          (preciseUnit - accruedFee world) * preciseUnit *
            world.setToken.defaultRealUnit token / preciseUnit := by
      intro token htoken
      have hne : token ≠ world.setTokenAddress := fun heq => hshare (heq ▸ htoken)
      simp [World.withHoldings, World.withChain, Chain.heldBalance, exactBalances, hne]
    have hafter := htracked _ _ _ _ hother (fun token htoken => (hbalance token htoken).ge)
    obtain ⟨-, -, hsetToken, hholdings⟩ := accrueFee_eq_ok hother
    have hne : component ≠ world.setTokenAddress := fun heq => hshare (heq ▸ hcomponent)
    have howed := hafter component (by rw [hsetToken]; exact hcomponent)
    rw [defaultRealUnit_of_accrual hother, hholdings component hne,
      hbalance component hcomponent, hsetToken] at howed
    change inflated preciseUnit (accruedFee world)
      ((preciseUnit - accruedFee world) * preciseUnit) *
        reducedUnit world.setToken (accruedFee world) component / preciseUnit ≤ _ at howed
    rw [hmultiple, Nat.mul_assoc, Nat.mul_div_cancel_left _ preciseUnit_pos,
      Nat.mul_right_comm, Nat.mul_div_cancel _ preciseUnit_pos] at howed
    rw [Nat.mul_comm, Nat.mul_comm (world.setToken.defaultRealUnit component)]
    exact howed
  · rw [accruedFee_of_no_percentage hpercentage, Nat.sub_zero]
    refine Nat.mul_le_mul_right _ (le_of_eq ?_)
    simp only [reducedUnit, reducedMultiplier_zero]
    rfl

/-- Accrual keeps a Set collateralized, whatever its supply, its balances and the
protocol's split, exactly when each real unit falls by at least the fee. -/
theorem tracked_after_accrual_iff
    (hshare : world.setTokenAddress ∉ world.setToken.components)
    (hcall : accrueFee module world = .ok next) :
    (∀ supply balances split other,
      accrueFee module (world.withHoldings module supply balances split) = .ok other →
      (world.withHoldings module supply balances split).Tracked → other.Tracked) ↔
    UnitsFall world.setToken (accruedFee world) := by
  refine ⟨unitsFall_of_tracked hshare hcall, ?_⟩
  intro hfalls supply balances split other hother htracked
  have hsame : (world.withHoldings module supply balances split).setTokenAddress ∉
      (world.withHoldings module supply balances split).setToken.components := hshare
  exact tracked_of_unitsFall hsame hfalls htracked hother

/-- A unit that the old multiplier did not round falls by at least the fee. -/
theorem reducedUnit_of_exact {setToken : SetToken} {fee : ℕ} {component : Address}
    (hmultiplier : 0 ≤ setToken.positionMultiplier)
    (hunit : 0 ≤ setToken.defaultPositionVirtualUnit component)
    (hexact : preciseUnitInt ∣
      setToken.defaultPositionVirtualUnit component * setToken.positionMultiplier) :
    reducedUnit setToken fee component * preciseUnit ≤
      setToken.defaultRealUnit component * (preciseUnit - fee) := by
  obtain ⟨unit, hproduct⟩ := hexact
  have hpositive := preciseUnitInt_pos
  have hunits : realUnit setToken.positionMultiplier
      (setToken.defaultPositionVirtualUnit component) = unit := by
    rw [realUnit, hproduct, Int.mul_ediv_cancel_left _ hpositive.ne']
  have hreduced : reducedMultiplier setToken fee * preciseUnitInt ≤
      setToken.positionMultiplier * (preciseUnit - fee : ℕ) := by
    rw [reducedMultiplier, Int.tdiv_eq_ediv_of_nonneg (by positivity)]
    exact Int.ediv_mul_le _ hpositive.ne'
  have hlowered : realUnit (reducedMultiplier setToken fee)
      (setToken.defaultPositionVirtualUnit component) * preciseUnitInt ≤
        unit * (preciseUnit - fee : ℕ) := by
    refine (Int.ediv_mul_le _ hpositive.ne').trans (le_of_mul_le_mul_right ?_ hpositive)
    calc setToken.defaultPositionVirtualUnit component *
          reducedMultiplier setToken fee * preciseUnitInt
        = setToken.defaultPositionVirtualUnit component *
          (reducedMultiplier setToken fee * preciseUnitInt) := mul_assoc _ _ _
      _ ≤ setToken.defaultPositionVirtualUnit component *
          (setToken.positionMultiplier * (preciseUnit - fee : ℕ)) :=
        mul_le_mul_of_nonneg_left hreduced hunit
      _ = preciseUnitInt * unit * (preciseUnit - fee : ℕ) := by
        rw [← mul_assoc, hproduct]
      _ = unit * (preciseUnit - fee : ℕ) * preciseUnitInt := by ring
  have hnonneg : 0 ≤ unit := by
    have hvalue : 0 ≤ preciseUnitInt * unit := hproduct ▸ mul_nonneg hunit hmultiplier
    exact nonneg_of_mul_nonneg_right hvalue hpositive
  have hreducedUnit : 0 ≤ reducedMultiplier setToken fee :=
    Int.tdiv_nonneg (by positivity) hpositive.le
  have hloweredUnit : 0 ≤ realUnit (reducedMultiplier setToken fee)
      (setToken.defaultPositionVirtualUnit component) :=
    Int.ediv_nonneg (mul_nonneg hunit hreducedUnit) hpositive.le
  zify
  rw [reducedUnit, SetToken.defaultRealUnit, hunits, Int.toNat_of_nonneg hnonneg,
    Int.toNat_of_nonneg hloweredUnit, cast_preciseUnit]
  exact hlowered

/-- One component at fifty units, under a multiplier that a first accrual of one
percent has left, with exactly the tracked balance. -/
def accruedWorld : World where
  controller := { Controller.deploy 1 2 with
    isSet := fun setToken => setToken == 9
    isModule := fun module => module == 5 }
  setTokenAddress := 9
  setToken := { SetToken.deploy [10] [50] [5] 7 with
    moduleStates := fun module => if module = 5 then .INITIALIZED else .NONE
    positionMultiplier := 99 * 10 ^ 16
    totalSupply := 1000 * 10 ^ 18 }
  balances := fun token holder => if token = 10 ∧ holder = 9 then 49000 else 0
  timestamp := oneYearInSeconds
  feeState := ⟨4, 10 ^ 17, 10 ^ 15, 0⟩

/-- A year later the unit is still 49, of a supply that has grown by 0.1%. -/
theorem accrueFee_accruedWorld : ∃ next, accrueFee 5 accruedWorld = .ok next ∧
    next.setToken.totalSupply * next.setToken.defaultRealUnit 10 / preciseUnit = 49049 ∧
    next.heldBalance 10 = 49000 ∧ next.setToken.components = [10] :=
  ⟨_, rfl, by decide, by decide, rfl⟩

theorem tracked_after_accrual_fifty_units :
    (∀ supply balances split other,
      accrueFee 5 (accruedWorld.withHoldings 5 supply balances split) = .ok other →
      (accruedWorld.withHoldings 5 supply balances split).Tracked → other.Tracked) ↔
    UnitsFall accruedWorld.setToken (accruedFee accruedWorld) := by
  obtain ⟨next, hcall, -⟩ := accrueFee_accruedWorld
  exact tracked_after_accrual_iff (by decide) hcall

/-- The tracked balance before is all there is; after it is 49 short. -/
theorem untracked_after_second_accrual :
    ¬∀ next, accrueFee 5 accruedWorld = .ok next →
      accruedWorld.Tracked → next.Tracked := by
  intro hall
  obtain ⟨next, hcall, howed, hbalance, hcomponents⟩ := accrueFee_accruedWorld
  have htracked : accruedWorld.Tracked := by
    intro component hcomponent
    rw [List.mem_singleton.mp hcomponent]
    decide
  have hafter := hall next hcall htracked 10 (by rw [hcomponents]; exact List.mem_singleton_self 10)
  rw [howed, hbalance] at hafter
  omega

end SetProtocol.StreamingFeeModule
