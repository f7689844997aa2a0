import SetProtocol.Core.SetTokenCreator
import SetProtocol.Library.Tally
import SetProtocol.Modules.StakingModule
import SetProtocol.Modules.StreamingFeeBacking

/-!
# Staked units in two books

The staking module keeps the staked units of every contract, the SetToken their sum as
a virtual unit under its multiplier.  Each staking and unstaking reads the sum back from
the virtual unit, changes it and converts it again.  The books agree as long as these
conversions are without remainder; where one is not, the external unit falls behind.
-/

namespace SetProtocol.StakingModule

open Transaction PreciseUnitMath Venue

variable {P : Type} {staking : Staking P} {module sender stakeContract : Address}
variable {token component : Address} {adapterName : String} {staked quantity : ℕ}
variable {world next : World P}

/-! ## The module's own book -/

def ComponentPositions.units (positions : ComponentPositions) (stakeContract : Address) :
    ℕ :=
  (positions.positions stakeContract).componentPositionUnits

/-- The units of a component over all staking contracts. -/
def ComponentPositions.total (positions : ComponentPositions) : ℕ :=
  Tally.total positions.stakingContracts positions.units

/-- Contracts are listed once, and units are kept of listed ones only. -/
structure ComponentPositions.Listed (positions : ComponentPositions) : Prop where
  nodup : positions.stakingContracts.Nodup
  unlisted : ∀ stakeContract, stakeContract ∉ positions.stakingContracts →
    positions.units stakeContract = 0

theorem units_update (positions : ComponentPositions) (contracts : List Address)
    (stakeContract : Address) (position : StakingPosition) :
    ComponentPositions.units
        ⟨contracts, Function.update positions.positions stakeContract position⟩ =
      Function.update positions.units stakeContract position.componentPositionUnits := by
  funext other
  by_cases heq : other = stakeContract
  · subst heq
    simp [ComponentPositions.units]
  · simp [ComponentPositions.units, heq]

theorem addStakingUnits_eq_ok {positions added : ComponentPositions}
    (hlisted : positions.Listed)
    (hcall : addStakingUnits positions stakeContract adapterName staked = .ok added) :
    added.Listed ∧ added.total = positions.total + staked := by
  unfold addStakingUnits at hcall
  split at hcall
  · rename_i hmem
    rw [AddressArrayUtils.contains_eq_true] at hmem
    simp only [bind_eq_ok, SafeMath.add_eq_ok, pure_eq_ok] at hcall
    obtain ⟨_, ⟨-, rfl⟩, rfl⟩ := hcall
    refine ⟨⟨hlisted.nodup, fun other hother => ?_⟩, ?_⟩
    · have hne : other ≠ stakeContract := fun heq => hother (heq ▸ hmem)
      rw [units_update, Function.update_of_ne hne]
      exact hlisted.unlisted other hother
    · rw [ComponentPositions.total, units_update, ComponentPositions.total]
      have htotal : Tally.total positions.stakingContracts
          (Function.update positions.units stakeContract
            (staked + positions.units stakeContract)) + positions.units stakeContract =
          Tally.total positions.stakingContracts positions.units +
            (staked + positions.units stakeContract) :=
        Tally.total_update hlisted.nodup hmem
      change Tally.total positions.stakingContracts (Function.update positions.units
        stakeContract (staked + positions.units stakeContract)) = _
      omega
  · rename_i hnew
    rw [AddressArrayUtils.contains_eq_true] at hnew
    rw [pure_eq_ok] at hcall
    subst hcall
    refine ⟨⟨?_, fun other hother => ?_⟩, ?_⟩
    · exact List.nodup_append_comm.mp (List.nodup_cons.mpr ⟨hnew, hlisted.nodup⟩)
    · rw [List.mem_append, not_or, List.mem_singleton] at hother
      rw [units_update, Function.update_of_ne hother.2]
      exact hlisted.unlisted other hother.1
    · rw [ComponentPositions.total, units_update]
      exact Tally.total_push hnew

theorem removeStakingUnits_eq_ok {positions removed : ComponentPositions}
    (hlisted : positions.Listed)
    (hcall : removeStakingUnits positions stakeContract staked = .ok removed) :
    removed.Listed ∧ removed.total + staked = positions.total := by
  simp only [removeStakingUnits, bind_eq_ok, SafeMath.sub_eq_ok] at hcall
  obtain ⟨_, ⟨henough, rfl⟩, hcall⟩ := hcall
  change staked ≤ positions.units stakeContract at henough
  split at hcall
  · rename_i hremaining
    change 0 < positions.units stakeContract - staked at hremaining
    have hmem : stakeContract ∈ positions.stakingContracts := by
      by_contra hnew
      have hnone := hlisted.unlisted stakeContract hnew
      omega
    rw [pure_eq_ok] at hcall
    subst hcall
    refine ⟨⟨hlisted.nodup, fun other hother => ?_⟩, ?_⟩
    · have hne : other ≠ stakeContract := fun heq => hother (heq ▸ hmem)
      rw [units_update, Function.update_of_ne hne]
      exact hlisted.unlisted other hother
    · rw [ComponentPositions.total, units_update, ComponentPositions.total]
      have htotal : Tally.total positions.stakingContracts
          (Function.update positions.units stakeContract
            (positions.units stakeContract - staked)) + positions.units stakeContract =
          Tally.total positions.stakingContracts positions.units +
            (positions.units stakeContract - staked) :=
        Tally.total_update hlisted.nodup hmem
      change Tally.total positions.stakingContracts (Function.update positions.units
        stakeContract (positions.units stakeContract - staked)) + staked = _
      omega
  · rename_i hremaining
    change ¬0 < positions.units stakeContract - staked at hremaining
    simp only [bind_eq_ok, AddressArrayUtils.remove_eq_ok, pure_eq_ok] at hcall
    obtain ⟨_, ⟨hmem, rfl⟩, rfl⟩ := hcall
    refine ⟨⟨hlisted.nodup.erase _, fun other hother => ?_⟩, ?_⟩
    · rw [units_update]
      by_cases heq : other = stakeContract
      · rw [heq, Function.update_self]
        rfl
      · rw [Function.update_of_ne heq]
        exact hlisted.unlisted other fun hother' =>
          hother ((List.mem_erase_of_ne heq).mpr hother')
    · have hothers : Tally.total (positions.stakingContracts.erase stakeContract)
          (Function.update positions.units stakeContract 0) =
            Tally.total (positions.stakingContracts.erase stakeContract) positions.units := by
        apply Tally.total_congr
        intro other hother
        have hne : other ≠ stakeContract := fun heq =>
          hlisted.nodup.not_mem_erase (heq ▸ hother)
        rw [Function.update_of_ne hne]
      have htotal : Tally.total (positions.stakingContracts.erase stakeContract)
          positions.units + positions.units stakeContract =
          Tally.total positions.stakingContracts positions.units := Tally.total_erase hmem
      rw [ComponentPositions.total, units_update, ComponentPositions.total]
      change Tally.total (positions.stakingContracts.erase stakeContract)
        (Function.update positions.units stakeContract 0) + staked = _
      omega

/-! ## The book of the SetToken -/

/-- The staked units that the module keeps of a component. -/
def trackedUnits (world : World P) (component : Address) : ℕ :=
  (world.stakingPositions component).total

/-- The module's external real unit of a component. -/
def externalUnit (module : Address) (world : World P) (component : Address) : ℤ :=
  world.setToken.externalRealUnit component module

/-- The default position is edited first, the external one after it. -/
theorem externalUnits_of_edits {setToken middle edited : SetToken}
    {controller : Controller} {newDefaultUnit : ℕ} {newUnit : ℤ}
    (hkept : Bookkept setToken)
    (hdefault : Position.editDefaultPosition setToken controller module token
      newDefaultUnit = .ok middle)
    (hexternal : Position.editExternalPosition middle controller module token module newUnit
      [] = .ok edited) :
    Bookkept edited ∧ edited.positionMultiplier = setToken.positionMultiplier ∧
      edited.externalPositionVirtualUnit token module =
        newUnit * preciseUnitInt / setToken.positionMultiplier ∧
      ∀ other, other ≠ token → edited.externalPositionVirtualUnit other module =
        setToken.externalPositionVirtualUnit other module := by
  have hkeptMiddle := hkept.editDefaultPosition hdefault
  obtain ⟨-, hmultiplier, hunits⟩ := Position.externalUnits_of_editDefault hdefault
  obtain ⟨hwritten, -, -⟩ := Position.externalUnits_of_editExternal hkeptMiddle hexternal
  have honly := Position.onlyExternal_of_edit hkeptMiddle hexternal
  refine ⟨honly.bookkept hkeptMiddle, honly.positionMultiplier.trans hmultiplier, ?_,
    fun other hother => ?_⟩
  · rw [hwritten, hmultiplier]
  · rw [honly.externalUnits other module (Or.inl hother), hunits]

/-- The external unit is read between the two edits. -/
theorem externalUnit_of_middle {setToken middle : SetToken} {controller : Controller}
    {newDefaultUnit : ℕ} {unit : ℤ}
    (hdefault : Position.editDefaultPosition setToken controller module token
      newDefaultUnit = .ok middle)
    (hunit : middle.getExternalPositionRealUnit token module = .ok unit) :
    unit = setToken.externalRealUnit token module := by
  obtain ⟨-, hmultiplier, hunits⟩ := Position.externalUnits_of_editDefault hdefault
  rw [SetToken.getExternalPositionRealUnit_eq_ok hunit, SetToken.externalRealUnit,
    SetToken.externalRealUnit, hmultiplier, hunits]

/-- One component's units were changed in both books. -/
structure UnitsChange (module token : Address) (world next : World P) (unit : ℤ)
    (total : ℕ) : Prop where
  bookkept : Bookkept next.setToken
  listed : (next.stakingPositions token).Listed
  tracked : trackedUnits next token = total
  positionMultiplier : next.setToken.positionMultiplier = world.setToken.positionMultiplier
  written : next.setToken.externalPositionVirtualUnit token module =
    unit * preciseUnitInt / world.setToken.positionMultiplier
  others : ∀ other, other ≠ token →
    next.stakingPositions other = world.stakingPositions other ∧
      next.setToken.externalPositionVirtualUnit other module =
        world.setToken.externalPositionVirtualUnit other module

theorem updateStakeState_eq_ok (hkept : Bookkept world.setToken)
    (hlisted : (world.stakingPositions token).Listed)
    (hcall : updateStakeState module world stakeContract token adapterName staked =
      .ok next) :
    UnitsChange module token world next (externalUnit module world token + staked)
      (trackedUnits world token + staked) := by
  simp only [updateStakeState, bind_eq_ok, SafeCast.toInt256_eq_ok, SignedSafeMath.add_eq_ok,
    pure_eq_ok] at hcall
  obtain ⟨positions, hpositions, _, -, _, -, _, -, middle, hdefault, unit, hunit, _,
    ⟨-, rfl⟩, _, ⟨-, rfl⟩, edited, hexternal, rfl⟩ := hcall
  obtain ⟨hlistedNext, htotal⟩ := addStakingUnits_eq_ok hlisted hpositions
  obtain rfl := externalUnit_of_middle hdefault hunit
  obtain ⟨hkeptNext, hmultiplier, hwritten, hothers⟩ :=
    externalUnits_of_edits hkept hdefault hexternal
  have hpositionsNext : Function.update world.stakingPositions token positions token =
      positions := Function.update_self _ _ _
  exact ⟨hkeptNext, hpositionsNext.symm.subst hlistedNext,
    (congrArg ComponentPositions.total hpositionsNext).trans htotal, hmultiplier, hwritten,
    fun other hother => ⟨Function.update_of_ne hother _ _, hothers other hother⟩⟩

theorem updateUnstakeState_eq_ok (hkept : Bookkept world.setToken)
    (hlisted : (world.stakingPositions token).Listed)
    (hcall : updateUnstakeState module world stakeContract token staked = .ok next) :
    staked ≤ trackedUnits world token ∧
      UnitsChange module token world next (externalUnit module world token - staked)
        (trackedUnits world token - staked) := by
  simp only [updateUnstakeState, bind_eq_ok, SafeCast.toInt256_eq_ok,
    SignedSafeMath.sub_eq_ok, pure_eq_ok] at hcall
  obtain ⟨positions, hpositions, _, -, _, -, _, -, middle, hdefault, unit, hunit, _,
    ⟨-, rfl⟩, _, ⟨-, rfl⟩, edited, hexternal, rfl⟩ := hcall
  obtain ⟨hlistedNext, htotal⟩ := removeStakingUnits_eq_ok hlisted hpositions
  obtain rfl := externalUnit_of_middle hdefault hunit
  obtain ⟨hkeptNext, hmultiplier, hwritten, hothers⟩ :=
    externalUnits_of_edits hkept hdefault hexternal
  have hpositionsNext : Function.update world.stakingPositions token positions token =
      positions := Function.update_self _ _ _
  change positions.total + staked = trackedUnits world token at htotal
  have htotalNext : positions.total = trackedUnits world token - staked := by omega
  exact ⟨by omega, hkeptNext, hpositionsNext.symm.subst hlistedNext,
    (congrArg ComponentPositions.total hpositionsNext).trans htotalNext, hmultiplier, hwritten,
    fun other hother => ⟨Function.update_of_ne hother _ _, hothers other hother⟩⟩

theorem stake_eq_ok (hkept : Bookkept world.setToken)
    (hlisted : (world.stakingPositions token).Listed)
    (hcall : stake staking module world sender stakeContract token adapterName staked =
      .ok next) :
    UnitsChange module token world next (externalUnit module world token + staked)
      (trackedUnits world token + staked) := by
  simp only [stake, bind_eq_ok] at hcall
  obtain ⟨_, -, _, -, _, -, _, -, called, hcalled, hupdated⟩ := hcall
  obtain ⟨hsame, -⟩ := invokeStake_same hcalled
  have hkeptCalled : Bookkept (world.withVenue called).setToken := by
    change Bookkept called.setToken
    rwa [hsame.setToken]
  have hchange := updateStakeState_eq_ok hkeptCalled hlisted hupdated
  have hsetToken : (world.withVenue called).setToken = world.setToken := hsame.setToken
  rw [externalUnit, hsetToken] at hchange
  exact ⟨hchange.bookkept, hchange.listed, hchange.tracked,
    hsetToken ▸ hchange.positionMultiplier, hsetToken ▸ hchange.written,
    hsetToken ▸ hchange.others⟩

theorem unstake_eq_ok (hkept : Bookkept world.setToken)
    (hlisted : (world.stakingPositions token).Listed)
    (hcall : unstake staking module world sender stakeContract token adapterName staked =
      .ok next) :
    staked ≤ trackedUnits world token ∧
      UnitsChange module token world next (externalUnit module world token - staked)
        (trackedUnits world token - staked) := by
  simp only [unstake, bind_eq_ok] at hcall
  obtain ⟨_, -, _, -, _, -, called, hcalled, hupdated⟩ := hcall
  obtain ⟨hsame, -⟩ := invokeUnstake_same hcalled
  have hkeptCalled : Bookkept (world.withVenue called).setToken := by
    change Bookkept called.setToken
    rwa [hsame.setToken]
  obtain ⟨henough, hchange⟩ := updateUnstakeState_eq_ok hkeptCalled hlisted hupdated
  have hsetToken : (world.withVenue called).setToken = world.setToken := hsame.setToken
  rw [externalUnit, hsetToken] at hchange
  exact ⟨henough, hchange.bookkept, hchange.listed, hchange.tracked,
    hsetToken ▸ hchange.positionMultiplier, hsetToken ▸ hchange.written,
    hsetToken ▸ hchange.others⟩

/-! ## Histories -/

/-- What happens to a SetToken with staked components.  Accrual of a streaming fee edits
the multiplier; shares and tokens may change hands at any time. -/
inductive StakingCall
  | stake (sender stakeContract component : Address) (adapterName : String)
      (componentPositionUnits : ℕ)
  | unstake (sender stakeContract component : Address) (adapterName : String)
      (componentPositionUnits : ℕ)
  | componentIssueHook (sender : Address) (setTokenQuantity : ℕ) (component : Address)
      (isEquity : Bool)
  | componentRedeemHook (sender : Address) (setTokenQuantity : ℕ) (component : Address)
      (isEquity : Bool)
  | accrueFee (feeModule : Address) (inflationFee : ℕ)
  | holdings (totalSupply : ℕ) (balances : Address → Address → ℕ)

def StakingCall.perform (staking : Staking P) (module : Address) :
    StakingCall → World P → Outcome (World P)
  | .stake sender stakeContract component adapterName componentPositionUnits, world =>
    StakingModule.stake staking module world sender stakeContract component adapterName
      componentPositionUnits
  | .unstake sender stakeContract component adapterName componentPositionUnits, world =>
    StakingModule.unstake staking module world sender stakeContract component adapterName
      componentPositionUnits
  | .componentIssueHook sender setTokenQuantity component isEquity, world =>
    StakingModule.componentIssueHook staking module world sender setTokenQuantity component
      isEquity
  | .componentRedeemHook sender setTokenQuantity component isEquity, world =>
    StakingModule.componentRedeemHook staking module world sender setTokenQuantity component
      isEquity
  | .accrueFee feeModule inflationFee, world => do
    let chain ← StreamingFeeModule.editPositionMultiplier feeModule world.toChain inflationFee
    pure (world.withVenue (world.withChain chain))
  | .holdings totalSupply balances, world =>
    pure (world.withVenue (world.withChain { world.toChain with
      setToken := { world.setToken with totalSupply := totalSupply }
      balances := balances }))

/-- The two books agree on a component: its external unit is never negative, there is
none without staked units, and an issuance stakes no more than is transferred in for the
external position. -/
structure StakingAgrees (staking : Staking P) (module component : Address)
    (world : World P) : Prop where
  nonneg : 0 ≤ externalUnit module world component
  unstaked : trackedUnits world component = 0 → externalUnit module world component = 0
  staked_le : ∀ quantity,
    ((replicaCalls .stake module (world.stakingPositions component) component quantity).map
        ProtocolCall.quantity).sum ≤
      (externalUnit module world component).toNat * quantity ⌈/⌉ preciseUnit
  stakes : ∀ sender quantity isEquity next,
    componentIssueHook staking module world sender quantity component isEquity = .ok next →
      next.protocolCalls = world.protocolCalls ++ replicaCalls .stake module
        (world.stakingPositions component) component quantity

/-- The multiplier divides the scaled units that a call leaves staked, and a fee only
accrues while nothing is staked. -/
def IsExact (component : Address) (call : StakingCall) (world : World P) : Prop :=
  match call with
  | .stake _ _ token _ staked => token = component →
      world.setToken.positionMultiplier ∣
        ((trackedUnits world component + staked : ℕ) : ℤ) * preciseUnitInt
  | .unstake _ _ token _ staked => token = component →
      world.setToken.positionMultiplier ∣
        ((trackedUnits world component - staked : ℕ) : ℤ) * preciseUnitInt
  | .accrueFee _ inflationFee => trackedUnits world component = 0 ∨ inflationFee = 0
  | _ => True

/-- The virtual unit stands for the staked units without remainder. -/
structure InStep (module component : Address) (world : World P) : Prop where
  bookkept : Bookkept world.setToken
  listed : ∀ component, (world.stakingPositions component).Listed
  exact : world.setToken.externalPositionVirtualUnit component module *
      world.setToken.positionMultiplier =
    (trackedUnits world component : ℤ) * preciseUnitInt

theorem externalUnit_of_inStep (hstep : InStep module component world) :
    externalUnit module world component = trackedUnits world component := by
  rw [externalUnit, SetToken.externalRealUnit, realUnit, hstep.exact]
  exact Int.mul_ediv_cancel _ preciseUnitInt_pos.ne'

/-- All calls of a replication, as a tally. -/
theorem sum_replicaCalls {action : ProtocolAction} {stakingPositions : ComponentPositions} :
    ((replicaCalls action module stakingPositions component quantity).map
        ProtocolCall.quantity).sum =
      Tally.total stakingPositions.stakingContracts
        (fun stakeContract => stakingPositions.units stakeContract * quantity /
          preciseUnit) := by
  rw [replicaCalls, List.map_map, Tally.total]
  congr 1
  refine List.map_congr_left fun stakeContract _ => ?_
  change quantity * stakingPositions.units stakeContract / preciseUnit = _
  rw [Nat.mul_comm]

theorem agrees_of_inStep (hstep : InStep module component world) :
    StakingAgrees staking module component world := by
  have hunit := externalUnit_of_inStep hstep
  refine ⟨by omega, fun hnone => by omega, fun quantity => ?_,
    fun _ _ _ _ hcall => (componentIssueHook_eq_ok hcall).2.2⟩
  rw [sum_replicaCalls, hunit, Int.toNat_natCast]
  calc Tally.total (world.stakingPositions component).stakingContracts
        (fun stakeContract => (world.stakingPositions component).units stakeContract *
          quantity / preciseUnit)
      ≤ trackedUnits world component * quantity / preciseUnit :=
        Tally.total_scaled_le quantity preciseUnit_pos
    _ ≤ trackedUnits world component * quantity ⌈/⌉ preciseUnit := by
        rw [Nat.div_le_iff_le_mul_add_pred preciseUnit_pos]
        have hceil := Backing.le_ceilDiv_mul (trackedUnits world component * quantity)
          preciseUnit_pos
        rw [Nat.mul_comm preciseUnit]
        omega

/-- Agreeing books need the whole of the staked units. -/
theorem trackedUnits_le_of_agrees (hagrees : StakingAgrees staking module component world) :
    (trackedUnits world component : ℤ) ≤ externalUnit module world component := by
  have hone := hagrees.staked_le preciseUnit
  rw [sum_replicaCalls, Tally.total_scaled_of_scale preciseUnit_pos] at hone
  have hceil : (externalUnit module world component).toNat * preciseUnit ⌈/⌉ preciseUnit ≤
      (externalUnit module world component).toNat :=
    (ceilDiv_le_iff_le_mul preciseUnit_pos).mpr (Nat.mul_comm _ _).le
  have hnonneg := hagrees.nonneg
  have htotal : trackedUnits world component ≤
      (externalUnit module world component).toNat := hone.trans hceil
  omega

/-- After a change, the virtual unit stands for the staked units exactly when the
multiplier divides them. -/
theorem inStep_of_change {units : ℕ} {unit : ℤ}
    (hstep : InStep module component world)
    (hchange : UnitsChange module token world next unit units) (hunit : token = component →
      unit = units)
    (hexact : token = component →
      world.setToken.positionMultiplier ∣ (units : ℤ) * preciseUnitInt) :
    InStep module component next := by
  refine ⟨hchange.bookkept, fun other => ?_, ?_⟩
  · by_cases hother : other = token
    · exact hother ▸ hchange.listed
    · rw [(hchange.others other hother).1]
      exact hstep.listed other
  · rw [hchange.positionMultiplier]
    by_cases htoken : token = component
    · subst htoken
      rw [hchange.written, hchange.tracked, hunit rfl]
      exact Int.ediv_mul_cancel (hexact rfl)
    · have hother := hchange.others component (Ne.symm htoken)
      rw [hother.2, trackedUnits, hother.1]
      exact hstep.exact

theorem exact_of_change {units : ℕ} (hkept : Bookkept world.setToken)
    (hchange : UnitsChange module component world next units units)
    (hagrees : StakingAgrees staking module component next) :
    world.setToken.positionMultiplier ∣ (units : ℤ) * preciseUnitInt := by
  have hunit := trackedUnits_le_of_agrees hagrees
  rw [hchange.tracked, externalUnit, SetToken.externalRealUnit, realUnit, hchange.written,
    hchange.positionMultiplier, Int.le_ediv_iff_mul_le preciseUnitInt_pos] at hunit
  have hbelow : (units : ℤ) * preciseUnitInt / world.setToken.positionMultiplier *
      world.setToken.positionMultiplier ≤ (units : ℤ) * preciseUnitInt :=
    Int.ediv_mul_le _ hkept.multiplier_pos.ne'
  exact Dvd.intro_left _ (le_antisymm hbelow hunit)

/-- Neither the books nor the multiplier are touched. -/
theorem inStep_of_same (hsame : SameSetToken world.toVenue next.toVenue)
    (hpositions : next.stakingPositions = world.stakingPositions)
    (hstep : InStep module component world) : InStep module component next := by
  have hsetToken : next.setToken = world.setToken := hsame.setToken
  refine ⟨?_, ?_, ?_⟩
  · rw [hsetToken]
    exact hstep.bookkept
  · rw [hpositions]
    exact hstep.listed
  · rw [hsetToken, trackedUnits, hpositions]
    exact hstep.exact

/-- A positive fee lowers the multiplier. -/
theorem inflationFee_eq_zero {setToken : SetToken} {inflationFee : ℕ}
    (hmultiplier : 0 < setToken.positionMultiplier) (hfee : inflationFee ≤ preciseUnit)
    (hkeeps : setToken.positionMultiplier ≤
      StreamingFeeModule.reducedMultiplier setToken inflationFee) : inflationFee = 0 := by
  have hnonneg : 0 ≤ setToken.positionMultiplier * (preciseUnit - inflationFee : ℕ) :=
    mul_nonneg hmultiplier.le (Int.natCast_nonneg _)
  rw [StreamingFeeModule.reducedMultiplier, Int.tdiv_eq_ediv_of_nonneg hnonneg,
    Int.le_ediv_iff_mul_le preciseUnitInt_pos] at hkeeps
  have hrest : preciseUnitInt ≤ ((preciseUnit - inflationFee : ℕ) : ℤ) :=
    le_of_mul_le_mul_left hkeeps hmultiplier
  have hunits : preciseUnit ≤ preciseUnit - inflationFee := Int.ofNat_le.mp hrest
  have hpositive := preciseUnit_pos
  omega

theorem accrueFee_eq_ok {feeModule : Address} {inflationFee : ℕ}
    (hkept : Bookkept world.setToken)
    (hcall : StakingCall.perform staking module (.accrueFee feeModule inflationFee) world =
      .ok next) :
    inflationFee ≤ preciseUnit ∧ Bookkept next.setToken ∧
      next.stakingPositions = world.stakingPositions ∧
      next.setToken.externalPositionVirtualUnit =
        world.setToken.externalPositionVirtualUnit ∧
      next.setToken.positionMultiplier =
        StreamingFeeModule.reducedMultiplier world.setToken inflationFee := by
  simp only [StakingCall.perform, bind_eq_ok, pure_eq_ok] at hcall
  obtain ⟨chain, hedited, rfl⟩ := hcall
  obtain ⟨hfee, -, hguard, hvalid, rfl⟩ :=
    StreamingFeeModule.editPositionMultiplier_eq_ok.mp hedited
  have hkeptNext := hkept.editPositionMultiplier
    (SetToken.editPositionMultiplier_eq_ok.mpr ⟨hguard, hvalid, rfl⟩)
  exact ⟨hfee, hkeptNext, rfl, rfl, rfl⟩

theorem inStep_of_perform {call : StakingCall} (hexact : IsExact component call world)
    (hstep : InStep module component world)
    (hcall : call.perform staking module world = .ok next) :
    InStep module component next := by
  cases call with
  | stake sender stakeContract token adapterName staked =>
    apply inStep_of_change hstep (stake_eq_ok hstep.bookkept (hstep.listed token) hcall)
    · rintro rfl
      rw [externalUnit_of_inStep hstep]
      rfl
    · rintro rfl
      exact hexact rfl
  | unstake sender stakeContract token adapterName staked =>
    obtain ⟨henough, hchange⟩ := unstake_eq_ok hstep.bookkept (hstep.listed token) hcall
    apply inStep_of_change hstep hchange
    · rintro rfl
      rw [externalUnit_of_inStep hstep, Int.ofNat_sub henough]
    · rintro rfl
      exact hexact rfl
  | componentIssueHook sender quantity token isEquity =>
    have hissued : componentIssueHook staking module world sender quantity token isEquity =
        .ok next := hcall
    obtain ⟨hsame, hpositions, -⟩ := componentIssueHook_eq_ok hissued
    exact inStep_of_same hsame hpositions hstep
  | componentRedeemHook sender quantity token isEquity =>
    have hredeemed : componentRedeemHook staking module world sender quantity token
        isEquity = .ok next := hcall
    obtain ⟨hsame, hpositions, -⟩ := componentRedeemHook_eq_ok hredeemed
    exact inStep_of_same hsame hpositions hstep
  | accrueFee feeModule inflationFee =>
    obtain ⟨-, hkeptNext, hpositions, hunits, hmultiplier⟩ :=
      accrueFee_eq_ok hstep.bookkept hcall
    have htracked : trackedUnits next component = trackedUnits world component := by
      rw [trackedUnits, hpositions]
      rfl
    refine ⟨hkeptNext, hpositions ▸ hstep.listed, ?_⟩
    rw [hunits, hmultiplier, htracked]
    rcases hexact with hnone | rfl
    · have hproduct := hstep.exact
      rw [hnone, Nat.cast_zero, zero_mul] at hproduct ⊢
      have hvirtual := (mul_eq_zero.mp hproduct).resolve_right
        hstep.bookkept.multiplier_pos.ne'
      rw [hvirtual, zero_mul]
    · rw [StreamingFeeModule.reducedMultiplier_zero]
      exact hstep.exact
  | holdings totalSupply balances =>
    rw [StakingCall.perform, pure_eq_ok] at hcall
    subst hcall
    exact ⟨hstep.bookkept.of_same_positions rfl rfl rfl, hstep.listed, hstep.exact⟩

theorem isExact_of_agrees {call : StakingCall} (hstep : InStep module component world)
    (hcall : call.perform staking module world = .ok next)
    (hagrees : StakingAgrees staking module component next) :
    IsExact component call world := by
  cases call with
  | stake sender stakeContract token adapterName staked =>
    rintro rfl
    have hchange := stake_eq_ok hstep.bookkept (hstep.listed token) hcall
    rw [externalUnit_of_inStep hstep] at hchange
    exact exact_of_change hstep.bookkept hchange hagrees
  | unstake sender stakeContract token adapterName staked =>
    rintro rfl
    obtain ⟨henough, hchange⟩ := unstake_eq_ok hstep.bookkept (hstep.listed token) hcall
    rw [externalUnit_of_inStep hstep, ← Int.ofNat_sub henough] at hchange
    exact exact_of_change hstep.bookkept hchange hagrees
  | accrueFee feeModule inflationFee =>
    obtain ⟨hfee, -, hpositions, hunits, hmultiplier⟩ :=
      accrueFee_eq_ok hstep.bookkept hcall
    by_cases hnone : trackedUnits world component = 0
    · exact Or.inl hnone
    · refine Or.inr (inflationFee_eq_zero hstep.bookkept.multiplier_pos hfee ?_)
      have htracked : trackedUnits next component = trackedUnits world component := by
        rw [trackedUnits, hpositions]
        rfl
      have hunit := trackedUnits_le_of_agrees hagrees
      rw [htracked, externalUnit, SetToken.externalRealUnit, realUnit, hunits, hmultiplier,
        Int.le_ediv_iff_mul_le preciseUnitInt_pos, ← hstep.exact] at hunit
      have hscaled : 0 < (trackedUnits world component : ℤ) * preciseUnitInt :=
        mul_pos (Int.natCast_pos.mpr (Nat.pos_of_ne_zero hnone)) preciseUnitInt_pos
      rw [← hstep.exact] at hscaled
      have hvirtual := pos_of_mul_pos_left hscaled hstep.bookkept.multiplier_pos.le
      exact le_of_mul_le_mul_left hunit hvirtual
  | componentIssueHook sender quantity token isEquity => trivial
  | componentRedeemHook sender quantity token isEquity => trivial
  | holdings totalSupply balances => trivial

/-- Nothing of the component is staked, and the SetToken holds no external unit of it. -/
structure NothingStaked (module component : Address) (world : World P) : Prop where
  bookkept : Bookkept world.setToken
  listed : ∀ component, (world.stakingPositions component).Listed
  tracked : trackedUnits world component = 0
  external : world.setToken.externalPositionVirtualUnit component module = 0

/-- The books agree after every initial part of a history exactly when each conversion in
it is without remainder and no fee accrues over staked units. -/
theorem stakingAgrees_of_history_iff {start : World P} {calls : List StakingCall}
    (hstart : NothingStaked module component start) :
    (∀ earlier, earlier <+: calls → StakingAgrees staking module component
        (run (StakingCall.perform staking module) earlier start)) ↔
      ∀ earlier call, earlier ++ [call] <+: calls → ∀ next,
        call.perform staking module
            (run (StakingCall.perform staking module) earlier start) = .ok next →
          IsExact component call
            (run (StakingCall.perform staking module) earlier start) := by
  apply run_good_iff (InStep module component) (fun world hstep => agrees_of_inStep hstep)
  · intro call world next hexact hstep hcall
    exact inStep_of_perform hexact hstep hcall
  · intro call world next hstep hcall hagrees
    exact isExact_of_agrees hstep hcall hagrees
  · refine ⟨hstart.bookkept, hstart.listed, ?_⟩
    rw [hstart.external, hstart.tracked, Nat.cast_zero, zero_mul, zero_mul]

/-- Staking contracts that hand back what they were given; their storage is the amount. -/
def vaults : Staking ℕ where
  registry _ _ := 30
  stake _ _ notionalQuantity _ held := .ok (held + notionalQuantity, notionalQuantity)
  unstake _ _ notionalQuantity _ held := do
    let held ← SafeMath.sub held notionalQuantity
    pure (held, notionalQuantity)

/-- Hundred units of a component, a thousand shares, nothing staked. -/
def vaultWorld : World ℕ where
  controller := { Controller.deploy 1 2 with
    isSet := fun setToken => setToken == 9
    isModule := fun module => module == 5 || module == 6 }
  setTokenAddress := 9
  setToken := { SetToken.deploy [10] [100] [5, 6] 7 with
    modules := [5, 6]
    moduleStates := fun module => if module = 5 ∨ module = 6 then .INITIALIZED else .NONE
    totalSupply := 1000 * 10 ^ 18 }
  balances := fun token holder => if holder = 9 ∧ token = 10 then 100000 else 0
  timestamp := 1
  protocols := 0
  protocolCalls := []
  stakingPositions := fun _ => ⟨[], fun _ => noStakingPosition⟩

theorem nothingStaked_vaultWorld : NothingStaked 5 10 vaultWorld :=
  ⟨(SetTokenCreator.bookkept_deploy rfl (by decide) (by decide) :
      Bookkept (SetToken.deploy [10] [100] [5, 6] 7)).of_same_positions rfl rfl rfl,
    fun _ => ⟨List.nodup_nil, fun _ _ => rfl⟩, rfl, rfl⟩

/-- A fee of one percent, and fifty units staked and unstaked. -/
def feeStakeUnstake : List StakingCall :=
  [.accrueFee 6 (10 ^ 16), .stake 7 20 10 "Vault" 50, .unstake 7 20 10 "Vault" 50]

theorem stakingAgrees_of_history_without_fee :
    (∀ earlier, earlier <+: feeStakeUnstake.tail → StakingAgrees vaults 5 10
        (run (StakingCall.perform vaults 5) earlier vaultWorld)) ↔
      ∀ earlier call, earlier ++ [call] <+: feeStakeUnstake.tail → ∀ next,
        call.perform vaults 5 (run (StakingCall.perform vaults 5) earlier vaultWorld) =
          .ok next →
        IsExact 10 call (run (StakingCall.perform vaults 5) earlier vaultWorld) :=
  stakingAgrees_of_history_iff nothingStaked_vaultWorld

/-- The issuance stakes fifty units for the forty-nine that come in, and unstaking leaves
a negative external unit behind. -/
theorem disagrees_after_fee :
    NothingStaked 5 10 vaultWorld ∧
      ¬StakingAgrees vaults 5 10
        (run (StakingCall.perform vaults 5) (feeStakeUnstake.take 2) vaultWorld) ∧
      trackedUnits (run (StakingCall.perform vaults 5) feeStakeUnstake vaultWorld) 10 = 0 ∧
      externalUnit 5 (run (StakingCall.perform vaults 5) feeStakeUnstake vaultWorld) 10 =
        -2 := by
  refine ⟨nothingStaked_vaultWorld, fun hagrees => ?_, by decide +kernel, by decide +kernel⟩
  have hunits := trackedUnits_le_of_agrees hagrees
  have htracked : trackedUnits (run (StakingCall.perform vaults 5) (feeStakeUnstake.take 2)
      vaultWorld) 10 = 50 := by decide +kernel
  have hexternal : externalUnit 5 (run (StakingCall.perform vaults 5)
      (feeStakeUnstake.take 2) vaultWorld) 10 = 49 := by decide +kernel
  rw [htracked, hexternal] at hunits
  omega

end SetProtocol.StakingModule
