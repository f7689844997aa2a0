import SetProtocol.Core.SetTokenCreator
import SetProtocol.Library.Allocation

/-!
# What a recomputed position is credited with

After an action a module recomputes the default position from the balances before
and after.  What had been sent to the SetToken beforehand stays out of the
position, and the two conversions lose at most two units.  The call is refused
where more has left than was tracked, where a unit would be lost in conversion, and
where a number does not fit.
-/

namespace SetProtocol.Position

open Transaction Index Rounding PreciseUnitMath

variable {setToken next : SetToken} {controller : Controller}
variable {sender component : Address}
variable {currentBalance supply previousBalance oldUnit newUnit : ℕ}

/-- What was held before the action in excess of the position. -/
def airdroppedAmount (supply previousBalance oldUnit : ℕ) : ℕ :=
  previousBalance - supply * oldUnit / preciseUnit

/-- The unit that spreads the balance, less the airdropped amount, over all shares. -/
def creditedUnit (supply previousBalance currentBalance oldUnit : ℕ) : ℕ :=
  (currentBalance - airdroppedAmount supply previousBalance oldUnit) * preciseUnit / supply

/-- A positive unit of which the virtual unit, or the real unit read back, is zero. -/
def ConvertsToZero (multiplier : ℤ) (unit : ℕ) : Prop :=
  0 < unit ∧ (unit * preciseUnit / multiplier.toNat = 0 ∨
    thereAndBack preciseUnit multiplier.toNat unit = 0)

/-- A product of the recomputation does not fit its type. -/
def Overflows (supply previousBalance currentBalance oldUnit : ℕ) : Prop :=
  maxUint256 < oldUnit * supply ∨
    maxUint256 < (currentBalance - airdroppedAmount supply previousBalance oldUnit) *
      preciseUnit ∨
    maxInt256 < creditedUnit supply previousBalance currentBalance oldUnit * preciseUnitInt

theorem fitsInt256_of_nat {value : ℕ} : FitsInt256 value ↔ (value : ℤ) ≤ maxInt256 := by
  have hlow : minInt256 ≤ 0 := by decide
  exact ⟨And.right, fun hvalue => ⟨hlow.trans (Int.natCast_nonneg value), hvalue⟩⟩

/-- A unit that is not lost converts, unless it is too large. -/
theorem convertRealToVirtualUnit_returns (hmultiplier : 0 < setToken.positionMultiplier) :
    (∃ virtualUnit, setToken.convertRealToVirtualUnit newUnit = .ok virtualUnit) ↔
      newUnit * preciseUnitInt ≤ maxInt256 ∧
        ¬ConvertsToZero setToken.positionMultiplier newUnit := by
  obtain ⟨factor, hfactor⟩ := Int.eq_ofNat_of_zero_le hmultiplier.le
  have hproduct : (newUnit : ℤ) * preciseUnitInt = (newUnit * preciseUnit : ℕ) := by
    rw [Nat.cast_mul, cast_preciseUnit]
  have hvirtual : (newUnit : ℤ) * preciseUnitInt / setToken.positionMultiplier =
      (newUnit * preciseUnit / factor : ℕ) := by
    rw [hproduct, hfactor, Int.natCast_ediv]
  have hback : (newUnit : ℤ) * preciseUnitInt / setToken.positionMultiplier *
      setToken.positionMultiplier = (newUnit * preciseUnit / factor * factor : ℕ) := by
    rw [hvirtual, hfactor, Nat.cast_mul]
  have hreal : realUnit setToken.positionMultiplier
      ((newUnit : ℤ) * preciseUnitInt / setToken.positionMultiplier) =
        (thereAndBack preciseUnit factor newUnit : ℕ) := by
    rw [realUnit, hback, ← cast_preciseUnit, ← Int.natCast_ediv, thereAndBack]
  -- converting back gives no more than was converted
  have hless : newUnit * preciseUnit / factor * factor ≤ newUnit * preciseUnit :=
    Nat.div_mul_le_self _ _
  have hzero : ConvertsToZero setToken.positionMultiplier newUnit ↔ 0 < newUnit ∧
      (newUnit * preciseUnit / factor = 0 ∨ thereAndBack preciseUnit factor newUnit = 0) := by
    rw [ConvertsToZero, hfactor, Int.toNat_natCast]
  simp only [SetToken.convertRealToVirtualUnit, bind_eq_ok,
    conservativePreciseDiv_eq_ok hmultiplier, hzero]
  constructor
  · rintro ⟨virtualUnit, _, ⟨hfits, rfl⟩, hchecks⟩
    rw [hproduct] at hfits ⊢
    refine ⟨fitsInt256_of_nat.mp hfits, ?_⟩
    rintro ⟨hpositive, hlost⟩
    rw [if_pos (Nat.cast_pos.mpr hpositive)] at hchecks
    simp only [bind_eq_ok, require_eq_ok, exists_const, pure_eq_ok,
      SetToken.convertVirtualToRealUnit_eq_ok] at hchecks
    obtain ⟨hnonzero, _, ⟨-, rfl⟩, hkept, -⟩ := hchecks
    rw [hvirtual] at hnonzero
    rw [hreal] at hkept
    rcases hlost with hlost | hlost
    · exact hnonzero (by rw [hlost, Nat.cast_zero])
    · exact hkept (by rw [hlost, Nat.cast_zero])
  · rintro ⟨hfits, hkept⟩
    rw [hproduct] at hfits
    refine ⟨(newUnit : ℤ) * preciseUnitInt / setToken.positionMultiplier, _,
      ⟨hproduct ▸ fitsInt256_of_nat.mpr hfits, rfl⟩, ?_⟩
    split
    · rename_i hpositive
      have hsurvives := not_or.mp fun hlost => hkept ⟨Nat.cast_pos.mp hpositive, hlost⟩
      simp only [bind_eq_ok, require_eq_ok, exists_const, pure_eq_ok,
        SetToken.convertVirtualToRealUnit_eq_ok]
      refine ⟨?_, _, ⟨?_, rfl⟩, ?_, trivial⟩
      · rw [hvirtual]
        exact Nat.cast_ne_zero.mpr hsurvives.1
      · rw [hback, fitsInt256_of_nat]
        exact (Nat.cast_le.mpr hless).trans hfits
      · rw [hreal]
        exact Nat.cast_ne_zero.mpr hsurvives.2
    · rfl

/-- A default edit checks who asks and converts the unit; nothing else can fail while
the bookkeeping is in order. -/
theorem editDefaultPosition_returns (hkept : Bookkept setToken)
    (hread : ∃ unit, setToken.getDefaultPositionRealUnit component = .ok unit) :
    (∃ next, editDefaultPosition setToken controller sender component newUnit = .ok next) ↔
      setToken.onlyModuleWhenLockedOnlyLocker controller sender = .ok () ∧
        newUnit * preciseUnitInt ≤ maxInt256 ∧
        ¬ConvertsToZero setToken.positionMultiplier newUnit := by
  obtain ⟨unit, hunit⟩ := hread
  have hsign := hkept.sign_of_default hunit
  have hpresent : 0 < unit ↔ 0 < setToken.defaultPositionVirtualUnit component := by
    rw [← Int.sign_eq_one_iff_pos, hsign, Int.sign_eq_one_iff_pos]
  have hlisted := hkept.components.mem_iff component
  constructor
  · rintro ⟨next, hcall⟩
    have hguard : setToken.onlyModuleWhenLockedOnlyLocker controller sender = .ok () := by
      simp only [editDefaultPosition, bind_eq_ok] at hcall
      obtain ⟨_, -, edited, hedited, _, -, hwrite⟩ := hcall
      obtain ⟨hguard, -⟩ := SetToken.editDefaultPositionUnit_eq_ok.mp hwrite
      have hsame : edited.moduleStates = setToken.moduleStates ∧
          edited.isLocked = setToken.isLocked ∧ edited.locker = setToken.locker := by
        split at hedited
        · split at hedited
          · obtain ⟨-, -, rfl⟩ := SetToken.addComponent_eq_ok.mp hedited
            exact ⟨rfl, rfl, rfl⟩
          · cases hedited
            exact ⟨rfl, rfl, rfl⟩
        · split at hedited
          · split at hedited
            · obtain ⟨-, -, _, -, rfl⟩ := SetToken.removeComponent_eq_ok hedited
              exact ⟨rfl, rfl, rfl⟩
            · cases hedited
              exact ⟨rfl, rfl, rfl⟩
          · cases hedited
            exact ⟨rfl, rfl, rfl⟩
      rw [← SetToken.onlyModuleWhenLockedOnlyLocker_congr hsame.1 hsame.2.1 hsame.2.2]
      exact hguard
    obtain ⟨_, virtualUnit, _, -, hconvert, -⟩ := editDefaultPosition_eq_ok hcall
    exact ⟨hguard, (convertRealToVirtualUnit_returns hkept.multiplier_pos).mp
      ⟨virtualUnit, hconvert⟩⟩
  · rintro ⟨hguard, hconverts⟩
    obtain ⟨virtualUnit, hconvert⟩ :=
      (convertRealToVirtualUnit_returns hkept.multiplier_pos).mpr hconverts
    have hcast : SafeCast.toInt256 newUnit = .ok (newUnit : ℤ) := by
      rw [SafeCast.toInt256_eq_ok]
      refine ⟨?_, rfl⟩
      have hone : (1 : ℤ) ≤ preciseUnitInt := preciseUnitInt_pos
      exact (le_mul_of_one_le_right (Int.natCast_nonneg newUnit) hone).trans hconverts.1
    have hedited : ∃ components, (
        if decide (0 < unit) = false ∧ 0 < newUnit then
          if hasExternalPosition setToken component = false then
            setToken.addComponent controller sender component
          else .ok setToken
        else if decide (0 < unit) = true ∧ newUnit = 0 then
          if hasExternalPosition setToken component = false then
            setToken.removeComponent controller sender component
          else .ok setToken
        else .ok setToken) = .ok (setToken.withComponents components) := by
      split
      · rename_i hadd
        split
        · rename_i hnone
          refine ⟨_, SetToken.addComponent_eq_ok.mpr ⟨hguard, ?_, rfl⟩⟩
          rw [hlisted]
          rintro (hdefault | hexternal)
          · exact of_decide_eq_false hadd.1 (hpresent.mpr hdefault)
          · exact hexternal (hasExternalPosition_eq_false.mp hnone)
        · exact ⟨setToken.components, rfl⟩
      · split
        · rename_i hdrop
          split
          · have hmem : component ∈ setToken.components :=
              hlisted.mpr (.inl (hpresent.mp (of_decide_eq_true hdrop.1)))
            obtain ⟨components, hremove, -⟩ := AddressArrayUtils.removeStorage_of_mem hmem
            refine ⟨components, ?_⟩
            simp only [SetToken.removeComponent, hguard, hremove, ok_bind]
            rfl
          · exact ⟨setToken.components, rfl⟩
        · exact ⟨setToken.components, rfl⟩
    obtain ⟨components, hedited⟩ := hedited
    refine ⟨(setToken.withComponents components).withPosition component
      { setToken.componentPositions component with virtualUnit := virtualUnit }, ?_⟩
    simp only [editDefaultPosition, hasDefaultPosition, hunit, ok_bind, bind_eq_ok,
      pure_eq_ok]
    exact ⟨_, rfl, _, hedited, _, hcast,
      SetToken.editDefaultPositionUnit_eq_ok.mpr ⟨hguard, virtualUnit, hconvert, rfl⟩⟩

/-! ## Stored units -/

/-- The default position of a component is what a real unit was converted to. -/
def StoresUnit (setToken : SetToken) (component : Address) (unit : ℕ) : Prop :=
  setToken.convertRealToVirtualUnit unit =
    .ok (setToken.defaultPositionVirtualUnit component)

theorem convertRealToVirtualUnit_congr
    (hmultiplier : next.positionMultiplier = setToken.positionMultiplier) (unit : ℤ) :
    next.convertRealToVirtualUnit unit = setToken.convertRealToVirtualUnit unit := by
  simp only [SetToken.convertRealToVirtualUnit, SetToken.convertVirtualToRealUnit, hmultiplier]

theorem StoresUnit.congr {unit : ℕ} (hstored : StoresUnit setToken component unit)
    (hmultiplier : next.positionMultiplier = setToken.positionMultiplier)
    (hvirtual : next.defaultPositionVirtualUnit component =
      setToken.defaultPositionVirtualUnit component) : StoresUnit next component unit := by
  rw [StoresUnit, convertRealToVirtualUnit_congr hmultiplier, hvirtual]
  exact hstored

/-- A default edit stores its unit and keeps those of the other components. -/
theorem storesUnit_of_edit
    (hcall : editDefaultPosition setToken controller sender component newUnit = .ok next) :
    next.positionMultiplier = setToken.positionMultiplier ∧
      StoresUnit next component newUnit ∧
      ∀ other, other ≠ component →
        next.defaultPositionVirtualUnit other = setToken.defaultPositionVirtualUnit other := by
  obtain ⟨_, virtualUnit, components, -, hconvert, rfl, -⟩ := editDefaultPosition_eq_ok hcall
  refine ⟨rfl, ?_, fun other hother => ?_⟩
  · have hwritten : ((setToken.withComponents components).withPosition component
        { setToken.componentPositions component with
          virtualUnit := virtualUnit }).defaultPositionVirtualUnit component =
            virtualUnit := by
      simp [SetToken.defaultPositionVirtualUnit, SetToken.withPosition]
    rw [StoresUnit, hwritten]
    exact hconvert
  · simp [SetToken.defaultPositionVirtualUnit, SetToken.withPosition,
      SetToken.withComponents, hother]

theorem totalSupply_of_edit
    (hcall : editDefaultPosition setToken controller sender component newUnit = .ok next) :
    next.totalSupply = setToken.totalSupply := by
  obtain ⟨_, _, _, -, -, rfl, -⟩ := editDefaultPosition_eq_ok hcall
  rfl

/-- A stored unit is read back, rounded twice, and does not vanish. -/
theorem StoresUnit.reads {unit : ℕ} (hstored : StoresUnit setToken component unit)
    (hmultiplier : 0 < setToken.positionMultiplier) :
    setToken.getDefaultPositionRealUnit component =
        .ok (setToken.defaultRealUnit component : ℤ) ∧
      setToken.defaultRealUnit component =
        thereAndBack preciseUnit setToken.positionMultiplier.toNat unit ∧
      (0 < unit → 0 < setToken.defaultRealUnit component) := by
  obtain ⟨hvirtual, hsign, hreal⟩ := SetToken.convertRealToVirtualUnit_sign hmultiplier hstored
  obtain ⟨hfits, -⟩ := (convertRealToVirtualUnit_returns hmultiplier).mp ⟨_, hstored⟩
  have hnonneg : 0 ≤ setToken.defaultPositionVirtualUnit component *
      setToken.positionMultiplier := by
    rw [hvirtual]
    exact mul_nonneg (Int.ediv_nonneg (mul_nonneg (Int.natCast_nonneg unit)
      preciseUnitInt_pos.le) hmultiplier.le) hmultiplier.le
  have hless : setToken.defaultPositionVirtualUnit component *
      setToken.positionMultiplier ≤ maxInt256 := by
    rw [hvirtual]
    exact (Int.ediv_mul_le _ hmultiplier.ne').trans hfits
  have hlow : minInt256 ≤ 0 := by decide
  have hback : (setToken.defaultRealUnit component : ℤ) =
      realUnit setToken.positionMultiplier (setToken.defaultPositionVirtualUnit component) :=
    Int.toNat_of_nonneg (Int.ediv_nonneg hnonneg preciseUnitInt_pos.le)
  refine ⟨?_, ?_, fun hpositive => ?_⟩
  · rw [hback]
    exact SetToken.convertVirtualToRealUnit_eq_ok.mpr ⟨⟨hlow.trans hnonneg, hless⟩, rfl⟩
  · have hcast : (setToken.positionMultiplier.toNat : ℤ) = setToken.positionMultiplier :=
      Int.toNat_of_nonneg hmultiplier.le
    have hrounded : (setToken.defaultRealUnit component : ℤ) =
        (thereAndBack preciseUnit setToken.positionMultiplier.toNat unit : ℕ) := by
      rw [hback, realUnit, hvirtual, thereAndBack, Int.natCast_ediv, Int.natCast_mul,
        Int.natCast_ediv, Int.natCast_mul, hcast, cast_preciseUnit]
    exact_mod_cast hrounded
  · rw [← Int.natCast_pos, hback, ← Int.sign_eq_one_iff_pos, hreal, hsign,
      Int.sign_eq_one_iff_pos]
    exact_mod_cast hpositive

/-- The two edits after an exchange of one token for another. -/
theorem storesUnit_of_exchange {sent received : SetToken} {sendToken receiveToken : Address}
    {sendBalance sendBefore receiveBalance receiveBefore oldSent newSent oldReceived
      newReceived : ℕ} (hne : sendToken ≠ receiveToken)
    (hsent : calculateAndEditDefaultPosition setToken controller sender sendToken sendBalance
      supply sendBefore = .ok (sent, oldSent, newSent))
    (hreceived : calculateAndEditDefaultPosition sent controller sender receiveToken
      receiveBalance supply receiveBefore = .ok (received, oldReceived, newReceived)) :
    received.positionMultiplier = setToken.positionMultiplier ∧
      sent.defaultRealUnit receiveToken = setToken.defaultRealUnit receiveToken ∧
      StoresUnit received sendToken newSent ∧ StoresUnit received receiveToken newReceived := by
  obtain ⟨-, -, hsentEdit⟩ := calculateAndEditDefaultPosition_eq_ok.mp hsent
  obtain ⟨-, -, hreceivedEdit⟩ := calculateAndEditDefaultPosition_eq_ok.mp hreceived
  obtain ⟨hsame, hsentStored, hsentOthers⟩ := storesUnit_of_edit hsentEdit
  obtain ⟨hrest, hreceivedStored, hreceivedOthers⟩ := storesUnit_of_edit hreceivedEdit
  refine ⟨hrest.trans hsame, ?_, hsentStored.congr hrest (hreceivedOthers _ hne),
    hreceivedStored⟩
  rw [SetToken.defaultRealUnit, hsame, hsentOthers _ hne.symm, SetToken.defaultRealUnit]

/-- What is stored of a token that was sent.  Its unit is recomputed from its balance, with a
check that only tracked tokens left, unless nothing of it is left at all. -/
structure SentUpdate (setToken updated : SetToken) (token : Address)
    (supply before after : ℕ) : Prop where
  stores : Allocation.held preciseUnit supply (setToken.defaultRealUnit token) ≤ before →
    StoresUnit updated token (Allocation.unitFor preciseUnit supply
      (Allocation.held preciseUnit supply (setToken.defaultRealUnit token) + after - before))
  emptied : after = 0 → StoresUnit updated token 0
  checked : 0 < after →
    Allocation.held preciseUnit supply (setToken.defaultRealUnit token) ≤ before ∧
      before - Allocation.held preciseUnit supply (setToken.defaultRealUnit token) ≤ after

theorem sentUpdate_of_exchange {sent received : SetToken} {token : Address}
    {sendBalance sendBefore oldSent newSent : ℕ}
    (hsent : calculateAndEditDefaultPosition setToken controller sender token sendBalance
      supply sendBefore = .ok (sent, oldSent, newSent))
    (hstored : StoresUnit received token newSent) :
    SentUpdate setToken received token supply sendBefore sendBalance := by
  obtain ⟨⟨unit, hunit, hcast⟩, hnewSent, -⟩ := calculateAndEditDefaultPosition_eq_ok.mp hsent
  refine ⟨fun htracked => ?_, fun hempty => ?_, fun hleft => ?_⟩
  · have hrecomputed := recomputedUnit hsent htracked
    rw [hrecomputed] at hstored
    exact hstored
  · rw [if_neg (by omega)] at hnewSent
    cases hnewSent
    exact hstored
  · rw [if_pos hleft, ← SetToken.defaultRealUnit_of_ok hunit hcast] at hnewSent
    obtain ⟨-, htracked, hexcess, -⟩ := calculateDefaultEditPositionUnit_eq_ok.mp hnewSent
    rw [Nat.mul_comm] at htracked hexcess
    exact ⟨htracked, hexcess⟩

/-- The edited unit can be read back. -/
theorem getDefaultPositionRealUnit_of_edit (hmultiplier : 0 < setToken.positionMultiplier)
    (hcall : editDefaultPosition setToken controller sender component newUnit = .ok next) :
    next.getDefaultPositionRealUnit component = .ok (next.defaultRealUnit component : ℤ) := by
  obtain ⟨hsame, hstored, -⟩ := storesUnit_of_edit hcall
  exact (hstored.reads (hsame ▸ hmultiplier)).1

/-- Whatever was tracked before, no more is owed of the recomputed position than is held. -/
theorem covered_of_recomputed (hmultiplier : 0 < setToken.positionMultiplier)
    (hcall : calculateAndEditDefaultPosition setToken controller sender component
      currentBalance supply previousBalance = .ok (next, oldUnit, newUnit)) :
    supply * next.defaultRealUnit component ≤ currentBalance * preciseUnit := by
  obtain ⟨-, hnew, hedit⟩ := calculateAndEditDefaultPosition_eq_ok.mp hcall
  obtain ⟨-, hunit, -⟩ := defaultRealUnit_of_edit hmultiplier hedit
  have hcovered : supply * newUnit ≤ currentBalance * preciseUnit := by
    split at hnew
    · obtain ⟨-, -, -, -, -, rfl⟩ := calculateDefaultEditPositionUnit_eq_ok.mp hnew
      exact (Nat.mul_div_le _ _).trans (Nat.mul_le_mul_right _ (Nat.sub_le _ _))
    · cases hnew
      exact Nat.zero_le _
  rw [hunit]
  exact (Nat.mul_le_mul_left _ (thereAndBack_le preciseUnit_pos _ _)).trans hcovered

/-- The unit read back credits what was tracked and what came in, less than two units
too little. -/
theorem credit_of_recomputed (hmultiplier : 0 < setToken.positionMultiplier)
    (hless : setToken.positionMultiplier ≤ preciseUnitInt) (hsupply : 0 < supply)
    (hcall : calculateAndEditDefaultPosition setToken controller sender component
      currentBalance supply previousBalance = .ok (next, oldUnit, newUnit))
    (htracked : supply * setToken.defaultRealUnit component / preciseUnit ≤
      previousBalance) :
    supply * next.defaultRealUnit component / preciseUnit ≤
        supply * setToken.defaultRealUnit component / preciseUnit + currentBalance -
          previousBalance ∧
      (supply * setToken.defaultRealUnit component / preciseUnit + currentBalance -
        previousBalance) * preciseUnit < (next.defaultRealUnit component + 2) * supply := by
  have hnew := recomputedUnit hcall htracked
  obtain ⟨-, -, hedit⟩ := calculateAndEditDefaultPosition_eq_ok.mp hcall
  obtain ⟨-, hunit, -⟩ := defaultRealUnit_of_edit hmultiplier hedit
  generalize hspread : supply * setToken.defaultRealUnit component / preciseUnit +
    currentBalance - previousBalance = spread at hnew ⊢
  have hfactor : 0 < setToken.positionMultiplier.toNat := Int.lt_toNat.mpr hmultiplier
  have hscale : setToken.positionMultiplier.toNat ≤ preciseUnit := by
    rw [Int.toNat_le, cast_preciseUnit]
    exact hless
  have hdown := thereAndBack_le preciseUnit_pos setToken.positionMultiplier.toNat newUnit
  have hup := le_thereAndBack_succ hfactor hscale newUnit
  rw [← hunit] at hdown hup
  constructor
  · calc supply * next.defaultRealUnit component / preciseUnit
        ≤ supply * newUnit / preciseUnit :=
          Nat.div_le_div_right (Nat.mul_le_mul_left supply hdown)
      _ ≤ spread * preciseUnit / preciseUnit := by
          rw [hnew]
          exact Nat.div_le_div_right (Nat.mul_div_le (spread * preciseUnit) supply)
      _ = spread := Nat.mul_div_cancel spread preciseUnit_pos
  · have hnear : spread * preciseUnit < (newUnit + 1) * supply := by
      rw [hnew]
      exact (Nat.div_lt_iff_lt_mul hsupply).mp (Nat.lt_succ_self _)
    exact hnear.trans_le (Nat.mul_le_mul_right supply (Nat.succ_le_succ hup))

/-- When the recomputation returns at all. -/
theorem calculateAndEditDefaultPosition_returns (hkept : Bookkept setToken)
    (hsupply : 0 < supply)
    (hread : setToken.getDefaultPositionRealUnit component = .ok (oldUnit : ℤ))
    (htracked : supply * oldUnit / preciseUnit ≤ previousBalance) :
    (∃ result, calculateAndEditDefaultPosition setToken controller sender component
      currentBalance supply previousBalance = .ok result) ↔
      setToken.onlyModuleWhenLockedOnlyLocker controller sender = .ok () ∧
        (0 < currentBalance →
          airdroppedAmount supply previousBalance oldUnit ≤ currentBalance ∧
          ¬Overflows supply previousBalance currentBalance oldUnit ∧
          ¬ConvertsToZero setToken.positionMultiplier
            (creditedUnit supply previousBalance currentBalance oldUnit)) := by
  have hcast : SafeCast.toUint256 (oldUnit : ℤ) = .ok oldUnit :=
    SafeCast.toUint256_eq_ok.mpr rfl
  have hedits := fun unit => @editDefaultPosition_returns setToken controller sender component
    unit hkept ⟨_, hread⟩
  have hreduces : (∃ result, calculateAndEditDefaultPosition setToken controller sender
      component currentBalance supply previousBalance = .ok result) ↔
      ∃ newUnit, (if 0 < currentBalance then
          calculateDefaultEditPositionUnit supply previousBalance currentBalance oldUnit
        else .ok 0) = .ok newUnit ∧ ∃ next,
          editDefaultPosition setToken controller sender component newUnit = .ok next := by
    constructor
    · rintro ⟨⟨next, unit, newUnit⟩, hcall⟩
      obtain ⟨⟨read, hread', hcast'⟩, hnew, hedit⟩ :=
        calculateAndEditDefaultPosition_eq_ok.mp hcall
      rw [hread, Except.ok.injEq] at hread'
      rw [← hread', hcast, Except.ok.injEq] at hcast'
      exact ⟨newUnit, hcast' ▸ hnew, next, hedit⟩
    · rintro ⟨newUnit, hnew, next, hedit⟩
      exact ⟨(next, oldUnit, newUnit), calculateAndEditDefaultPosition_eq_ok.mpr
        ⟨⟨_, hread, hcast⟩, hnew, hedit⟩⟩
  rw [hreduces]
  by_cases hpositive : 0 < currentBalance
  · rw [Nat.mul_comm supply] at htracked
    simp only [if_pos hpositive, forall_prop_of_true hpositive,
      calculateDefaultEditPositionUnit_eq_ok, hedits, Overflows, airdroppedAmount,
      creditedUnit, Nat.mul_comm supply, not_or, not_lt]
    constructor
    · rintro ⟨_, ⟨hfits, -, hleft, hscaled, -, rfl⟩, hguard, hsmall, hkeeps⟩
      exact ⟨hguard, hleft, ⟨hfits, hscaled, hsmall⟩, hkeeps⟩
    · rintro ⟨hguard, hleft, ⟨hfits, hscaled, hsmall⟩, hkeeps⟩
      exact ⟨_, ⟨hfits, htracked, hleft, hscaled, hsupply, rfl⟩, hguard, hsmall, hkeeps⟩
  · -- nothing is held, and the zero unit always converts
    have hzero : ((0 : ℕ) : ℤ) * preciseUnitInt ≤ maxInt256 ∧
        ¬ConvertsToZero setToken.positionMultiplier 0 :=
      ⟨by decide, fun hlost => absurd hlost.1 (Nat.lt_irrefl 0)⟩
    simp only [if_neg hpositive, forall_prop_of_false hpositive, Except.ok.injEq,
      exists_eq_left', hedits, and_true]
    exact ⟨And.left, fun hguard => ⟨hguard, hzero⟩⟩

/-- A recomputed position is credited with what was gained and no more.  The call
reverts exactly if the caller may not edit the position, or something is held after the
action and more has left than was tracked, a number does not fit, or the unit is lost
in conversion. -/
theorem recomputed_credits_gain (hkept : Bookkept setToken)
    (hless : setToken.positionMultiplier ≤ preciseUnitInt) (hsupply : 0 < supply)
    (hread : setToken.getDefaultPositionRealUnit component = .ok (oldUnit : ℤ))
    (htracked : supply * oldUnit / preciseUnit ≤ previousBalance) :
    (∀ edited positionUnit newUnit, calculateAndEditDefaultPosition setToken controller sender
        component currentBalance supply previousBalance = .ok (edited, positionUnit, newUnit) →
      ∃ unit : ℕ, edited.getDefaultPositionRealUnit component = .ok (unit : ℤ) ∧
        (0 < currentBalance →
          supply * unit / preciseUnit + previousBalance ≤
              supply * oldUnit / preciseUnit + currentBalance ∧
            (supply * oldUnit / preciseUnit + currentBalance - previousBalance) *
              preciseUnit ≤ (unit + 2) * supply) ∧
        supply * unit / preciseUnit ≤ currentBalance) ∧
    ((∃ reason, calculateAndEditDefaultPosition setToken controller sender component
        currentBalance supply previousBalance = .error reason) ↔
      setToken.onlyModuleWhenLockedOnlyLocker controller sender ≠ .ok () ∨
        0 < currentBalance ∧
          (currentBalance < airdroppedAmount supply previousBalance oldUnit ∨
            Overflows supply previousBalance currentBalance oldUnit ∨
            ConvertsToZero setToken.positionMultiplier
              (creditedUnit supply previousBalance currentBalance oldUnit))) := by
  have hold : setToken.defaultRealUnit component = oldUnit :=
    SetToken.defaultRealUnit_of_ok hread (SafeCast.toUint256_eq_ok.mpr rfl)
  constructor
  · intro edited positionUnit newUnit hcall
    obtain ⟨-, hnew, hedit⟩ := calculateAndEditDefaultPosition_eq_ok.mp hcall
    have hcovered := htracked
    rw [← hold] at hcovered
    have hcredit := credit_of_recomputed hkept.multiplier_pos hless hsupply hcall hcovered
    have hbacked := backed_of_recomputed hkept.multiplier_pos hcall hcovered
    rw [hold] at hcredit
    refine ⟨_, getDefaultPositionRealUnit_of_edit hkept.multiplier_pos hedit, ?_, hbacked⟩
    intro hpositive
    -- what was airdropped is still there, so the difference is not cut off
    have hleft : previousBalance ≤ supply * oldUnit / preciseUnit + currentBalance := by
      obtain ⟨-, hholds⟩ := (calculateAndEditDefaultPosition_returns hkept hsupply hread
        htracked).mp ⟨_, hcall⟩
      have hairdropped := (hholds hpositive).1
      rw [airdroppedAmount] at hairdropped
      omega
    exact ⟨(Nat.le_sub_iff_add_le hleft).mp hcredit.1, hcredit.2.le⟩
  · rw [exists_error_iff, calculateAndEditDefaultPosition_returns hkept hsupply hread htracked,
      not_and_or, Classical.not_imp, not_and_or, not_le, not_and_or, not_not, not_not]

/-- Fifty units of one component, edited by module 5. -/
def fiftyUnits : SetToken :=
  { SetToken.deploy [10] [50] [5] 7 with
    moduleStates := fun module => if module = 5 then .INITIALIZED else .NONE }

def onlyModuleFive : Controller :=
  { Controller.deploy 1 2 with isModule := fun module => module == 5 }

theorem bookkept_fiftyUnits : Bookkept fiftyUnits :=
  (SetTokenCreator.bookkept_deploy rfl (by decide) (by decide) :
    Bookkept (SetToken.deploy [10] [50] [5] 7)).of_same_positions rfl rfl rfl

/-- One share tracks fifty of sixty tokens held, and thirty come in. -/
theorem recomputed_credits_gain_thirty :
    (∀ edited positionUnit newUnit, calculateAndEditDefaultPosition fiftyUnits onlyModuleFive
        5 10 90 (10 ^ 18) 60 = .ok (edited, positionUnit, newUnit) →
      ∃ unit : ℕ, edited.getDefaultPositionRealUnit 10 = .ok (unit : ℤ) ∧
        (0 < 90 → 10 ^ 18 * unit / preciseUnit + 60 ≤ 10 ^ 18 * 50 / preciseUnit + 90 ∧
          (10 ^ 18 * 50 / preciseUnit + 90 - 60) * preciseUnit ≤ (unit + 2) * 10 ^ 18) ∧
        10 ^ 18 * unit / preciseUnit ≤ 90) ∧
    ((∃ reason, calculateAndEditDefaultPosition fiftyUnits onlyModuleFive 5 10 90 (10 ^ 18)
        60 = .error reason) ↔
      fiftyUnits.onlyModuleWhenLockedOnlyLocker onlyModuleFive 5 ≠ .ok () ∨
        0 < 90 ∧ (90 < airdroppedAmount (10 ^ 18) 60 50 ∨ Overflows (10 ^ 18) 60 90 50 ∨
          ConvertsToZero fiftyUnits.positionMultiplier (creditedUnit (10 ^ 18) 60 90 50))) :=
  recomputed_credits_gain bookkept_fiftyUnits (by decide) (by decide) rfl (by decide)

/-- A balance near the largest number reverts, although it is no smaller than the
airdropped amount and its unit converts. -/
theorem overflow_reverts_too :
    ¬∀ (currentBalance : ℕ), (∃ reason, calculateAndEditDefaultPosition fiftyUnits
        onlyModuleFive 5 10 currentBalance (10 ^ 18) 50 = .error reason) ↔
      0 < currentBalance ∧ (currentBalance < airdroppedAmount (10 ^ 18) 50 50 ∨
        ConvertsToZero fiftyUnits.positionMultiplier
          (creditedUnit (10 ^ 18) 50 currentBalance 50)) := by
  intro hall
  obtain ⟨-, hsmall | ⟨-, hlost⟩⟩ := (hall maxUint256).mp
    ⟨_, reverts_iff.mp (by decide +kernel : Reverts (calculateAndEditDefaultPosition
      fiftyUnits onlyModuleFive 5 10 maxUint256 (10 ^ 18) 50)
        "SafeMath: multiplication overflow")⟩
  · exact absurd hsmall (by decide +kernel)
  · exact absurd hlost (by decide +kernel)

end SetProtocol.Position
