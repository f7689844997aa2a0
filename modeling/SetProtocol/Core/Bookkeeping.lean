import SetProtocol.Core.Position
import SetProtocol.Library.Rounding

/-!
# Position bookkeeping

`components` and the lists of external position modules are indexes over the
stored virtual units, kept up to date by the two editing functions.  These
decide by rounded real units, so the invariant also says that the conversion
under the current multiplier never changes the sign of a stored unit.
-/

namespace SetProtocol

open Transaction Index Rounding PreciseUnitMath

/-- The real unit of a virtual unit, rounded down. -/
def realUnit (multiplier virtualUnit : ℤ) : ℤ :=
  virtualUnit * multiplier / preciseUnitInt

namespace ComponentPosition

/-- A component is held as a default position, or through some module. -/
def IsPresent (position : ComponentPosition) : Prop :=
  0 < position.virtualUnit ∨ position.externalPositionModules ≠ []

/-- The positions of one component are in order under a multiplier. -/
structure Sound (multiplier : ℤ) (position : ComponentPosition) : Prop where
  default_nonneg : 0 ≤ position.virtualUnit
  default_sign :
    (realUnit multiplier position.virtualUnit).sign = position.virtualUnit.sign
  modules : Indexes position.externalPositionModules
    (fun module => (position.externalPositions module).virtualUnit ≠ 0)
  external_sign : ∀ module,
    (realUnit multiplier (position.externalPositions module).virtualUnit).sign =
      (position.externalPositions module).virtualUnit.sign

end ComponentPosition

/-- The bookkeeping invariant of a SetToken. -/
structure Bookkept (setToken : SetToken) : Prop where
  components : Indexes setToken.components
    (fun component => (setToken.componentPositions component).IsPresent)
  positions : ∀ component,
    (setToken.componentPositions component).Sound setToken.positionMultiplier
  multiplier_pos : 0 < setToken.positionMultiplier

/-! ## Conversions -/

namespace SetToken

variable {setToken next : SetToken} {controller : Controller}
variable {sender component module : Address}

/-- Whenever the conversion returns, it returns the real unit. -/
theorem convertVirtualToRealUnit_eq_ok {virtualUnit result : ℤ} :
    setToken.convertVirtualToRealUnit virtualUnit = .ok result ↔
      FitsInt256 (virtualUnit * setToken.positionMultiplier) ∧
        realUnit setToken.positionMultiplier virtualUnit = result :=
  conservativePreciseMul_eq_ok

/-- The default real unit of a component, as the modules use it: they cast it to
an unsigned number, which a negative unit would not pass. -/
def defaultRealUnit (setToken : SetToken) (component : Address) : ℕ :=
  (realUnit setToken.positionMultiplier
    (setToken.defaultPositionVirtualUnit component)).toNat

theorem getDefaultPositionRealUnit_eq_ok {unit : ℤ}
    (hunit : setToken.getDefaultPositionRealUnit component = .ok unit) :
    unit = realUnit setToken.positionMultiplier
      (setToken.defaultPositionVirtualUnit component) :=
  (convertVirtualToRealUnit_eq_ok.mp hunit).2.symm

/-- Reading a default real unit and casting it. -/
theorem defaultRealUnit_of_ok {unit : ℤ} {cast : ℕ}
    (hunit : setToken.getDefaultPositionRealUnit component = .ok unit)
    (hcast : SafeCast.toUint256 unit = .ok cast) :
    setToken.defaultRealUnit component = cast := by
  rw [SafeCast.toUint256_eq_ok] at hcast
  rw [defaultRealUnit, ← getDefaultPositionRealUnit_eq_ok hunit, hcast, Int.toNat_natCast]

/-- A converted unit keeps its sign, and keeps it when converted back. -/
theorem convertRealToVirtualUnit_sign {unit virtualUnit : ℤ}
    (hmultiplier : 0 < setToken.positionMultiplier)
    (hconvert : setToken.convertRealToVirtualUnit unit = .ok virtualUnit) :
    virtualUnit = unit * preciseUnitInt / setToken.positionMultiplier ∧
      virtualUnit.sign = unit.sign ∧
      (realUnit setToken.positionMultiplier virtualUnit).sign = virtualUnit.sign := by
  simp only [convertRealToVirtualUnit, bind_eq_ok,
    conservativePreciseDiv_eq_ok hmultiplier] at hconvert
  obtain ⟨_, ⟨-, rfl⟩, hchecks⟩ := hconvert
  -- rounding down keeps a negative unit negative; a positive one is checked
  have hforward : (unit * preciseUnitInt / setToken.positionMultiplier).sign =
      unit.sign := by
    apply sign_mul_ediv preciseUnitInt_pos hmultiplier
    intro hpos
    simp only [hpos, if_true, bind_eq_ok, require_eq_ok, exists_const] at hchecks
    have hnonneg : 0 ≤ unit * preciseUnitInt / setToken.positionMultiplier :=
      Int.ediv_nonneg (mul_nonneg hpos.le preciseUnitInt_pos.le) hmultiplier.le
    exact lt_of_le_of_ne hnonneg (Ne.symm hchecks.1)
  split at hchecks
  · rename_i hpos
    simp only [bind_eq_ok, require_eq_ok, exists_const, pure_eq_ok,
      convertVirtualToRealUnit_eq_ok] at hchecks
    obtain ⟨-, _, ⟨-, rfl⟩, hback, rfl⟩ := hchecks
    refine ⟨rfl, hforward, sign_mul_ediv hmultiplier preciseUnitInt_pos fun hvirtual => ?_⟩
    have hnonneg := Int.ediv_nonneg
      (mul_nonneg hvirtual.le hmultiplier.le) preciseUnitInt_pos.le
    exact lt_of_le_of_ne hnonneg (Ne.symm hback)
  · rename_i hnonpos
    rw [pure_eq_ok] at hchecks
    subst hchecks
    refine ⟨rfl, hforward, sign_mul_ediv hmultiplier preciseUnitInt_pos fun hvirtual => ?_⟩
    have hunit : unit.sign = 1 := by
      rw [← hforward, Int.sign_eq_one_of_pos hvirtual]
    exact absurd (Int.sign_eq_one_iff_pos.mp hunit) hnonpos

/-! ## The smallest unit -/

theorem absoluteValue_eq_ok {a : ℤ} {result : ℕ} (hresult : absoluteValue a = .ok result) :
    (result : ℤ) = |a| := by
  unfold absoluteValue at hresult
  split at hresult
  · rename_i hpos
    rw [SafeCast.toUint256_eq_ok] at hresult
    rw [← hresult, abs_of_nonneg hpos]
  · rename_i hneg
    rw [SafeCast.toUint256_eq_ok] at hresult
    split at hresult
    · omega
    · rw [← hresult, abs_of_neg (not_le.mp hneg)]

theorem lesserUnit_le (minimumUnit unit : ℕ) :
    lesserUnit minimumUnit unit ≤ minimumUnit ∧
      (0 < unit → lesserUnit minimumUnit unit ≤ unit) := by
  unfold lesserUnit
  split <;> omega

/-- The minimum found by the loop is a lower bound of every non-zero unit of the
listed components. -/
theorem getPositionsAbsMinimumVirtualUnit_le {minimum : ℤ}
    (hminimum : setToken.getPositionsAbsMinimumVirtualUnit = .ok minimum) :
    0 ≤ minimum ∧ ∀ component ∈ setToken.components,
      (0 < setToken.defaultPositionVirtualUnit component →
        minimum ≤ setToken.defaultPositionVirtualUnit component) ∧
      ∀ module ∈ setToken.getExternalPositionModules component,
        setToken.externalPositionVirtualUnit component module ≠ 0 →
          minimum ≤ |setToken.externalPositionVirtualUnit component module| := by
  simp only [getPositionsAbsMinimumVirtualUnit, bind_eq_ok,
    SafeCast.toInt256_eq_ok] at hminimum
  obtain ⟨lowest, hfold, -, rfl⟩ := hminimum
  refine ⟨Int.natCast_nonneg lowest, ?_⟩
  have hwithin := (foldlM_within
    (fun component (unit : ℕ) =>
      (0 < setToken.defaultPositionVirtualUnit component →
        (unit : ℤ) ≤ setToken.defaultPositionVirtualUnit component) ∧
      ∀ module ∈ setToken.getExternalPositionModules component,
        setToken.externalPositionVirtualUnit component module ≠ 0 →
          (unit : ℤ) ≤ |setToken.externalPositionVirtualUnit component module|)
    ?_ ?_ hfold).2
  · exact hwithin
  · intro component low high hle hhigh
    have hcast : (low : ℤ) ≤ high := by exact_mod_cast hle
    exact ⟨fun hpos => hcast.trans (hhigh.1 hpos),
      fun module hmodule hunit => hcast.trans (hhigh.2 module hmodule hunit)⟩
  · intro component _ unit least hbody
    simp only [bind_eq_ok, SafeCast.toUint256_eq_ok] at hbody
    obtain ⟨defaultUnit, hdefault, hmodules⟩ := hbody
    obtain ⟨hdown, hdefaultUnit⟩ := lesserUnit_le unit defaultUnit
    -- the inner loop, over the external positions of the component
    obtain ⟨hleast, hexternal⟩ := foldlM_within
      (fun module (unit : ℕ) =>
        setToken.externalPositionVirtualUnit component module ≠ 0 →
          (unit : ℤ) ≤ |setToken.externalPositionVirtualUnit component module|)
      (by
        intro module low high hle hhigh hunit
        exact le_trans (by exact_mod_cast hle) (hhigh hunit))
      (by
        intro module _ unit lower hinner
        simp only [bind_eq_ok, pure_eq_ok] at hinner
        obtain ⟨magnitude, hmagnitude, rfl⟩ := hinner
        obtain ⟨hdown, hunit⟩ := lesserUnit_le unit magnitude
        refine ⟨hdown, fun hnonzero => ?_⟩
        have habs := absoluteValue_eq_ok hmagnitude
        have hpos : 0 < |setToken.externalPositionVirtualUnit component module| :=
          abs_pos.mpr hnonzero
        rw [← habs] at hpos ⊢
        exact_mod_cast hunit (by exact_mod_cast hpos))
      hmodules
    refine ⟨hleast.trans hdown, fun hpos => ?_, hexternal⟩
    rw [hdefault] at hpos ⊢
    exact_mod_cast hleast.trans (hdefaultUnit (by exact_mod_cast hpos))

/-- An accepted multiplier is positive and rounds no positive unit to zero. -/
theorem validateNewMultiplier_eq_ok {newMultiplier : ℤ}
    (hvalid : setToken.validateNewMultiplier newMultiplier = .ok ()) :
    0 < newMultiplier ∧ ∀ component ∈ setToken.components,
      (0 < setToken.defaultPositionVirtualUnit component →
        0 < realUnit newMultiplier (setToken.defaultPositionVirtualUnit component)) ∧
      ∀ module ∈ setToken.getExternalPositionModules component,
        0 < setToken.externalPositionVirtualUnit component module →
          0 < realUnit newMultiplier
            (setToken.externalPositionVirtualUnit component module) := by
  simp only [validateNewMultiplier, bind_eq_ok, require_eq_ok,
    conservativePreciseMul_eq_ok] at hvalid
  obtain ⟨minimum, hminimum, _, ⟨-, rfl⟩, hpos⟩ := hvalid
  obtain ⟨hnonneg, hbounds⟩ := getPositionsAbsMinimumVirtualUnit_le hminimum
  have hmultiplier : 0 < newMultiplier := by
    have hproduct : 0 < minimum * newMultiplier :=
      lt_of_lt_of_le preciseUnitInt_pos ((ediv_pos_iff preciseUnitInt_pos).mp hpos)
    exact pos_of_mul_pos_right hproduct hnonneg
  refine ⟨hmultiplier, fun component hcomponent => ?_⟩
  obtain ⟨hdefault, hexternal⟩ := hbounds component hcomponent
  refine ⟨fun hunit => ?_, fun module hmodule hunit => ?_⟩
  · exact ediv_pos_of_le hmultiplier preciseUnitInt_pos (hdefault hunit) hpos
  · have hbound := hexternal module hmodule hunit.ne'
    rw [abs_of_pos hunit] at hbound
    exact ediv_pos_of_le hmultiplier preciseUnitInt_pos hbound hpos

end SetToken

/-! ## Effects of the two editing functions -/

namespace Position

variable {setToken next : SetToken} {controller : Controller}
variable {sender component module : Address}

@[simp]
theorem hasExternalPosition_eq_false : hasExternalPosition setToken component = false ↔
    setToken.getExternalPositionModules component = [] := by
  simp [hasExternalPosition]

/-- A default edit writes the converted unit.  The component is listed when its
only position appears, unlisted when its only position disappears. -/
theorem editDefaultPosition_eq_ok {newUnit : ℕ}
    (hcall : editDefaultPosition setToken controller sender component newUnit =
      .ok next) :
    ∃ unit virtualUnit components,
      setToken.getDefaultPositionRealUnit component = .ok unit ∧
      setToken.convertRealToVirtualUnit newUnit = .ok virtualUnit ∧
      next = (setToken.withComponents components).withPosition component
        { setToken.componentPositions component with virtualUnit := virtualUnit } ∧
      ((unit ≤ 0 ∧ 0 < newUnit ∧
          setToken.getExternalPositionModules component = [] ∧
          components = setToken.components ++ [component]) ∨
        (0 < unit ∧ newUnit = 0 ∧
          setToken.getExternalPositionModules component = [] ∧
          components.Perm (setToken.components.erase component)) ∨
        (components = setToken.components ∧
          ((0 < unit ↔ 0 < newUnit) ∨
            setToken.getExternalPositionModules component ≠ []))) := by
  simp only [editDefaultPosition, hasDefaultPosition, bind_eq_ok, pure_eq_ok,
    SafeCast.toInt256_eq_ok, SetToken.editDefaultPositionUnit_eq_ok] at hcall
  obtain ⟨found, ⟨unit, hunit, rfl⟩, edited, hedited, _, ⟨-, rfl⟩, -, virtualUnit,
    hconvert, rfl⟩ := hcall
  -- the edits of the component list leave everything else in place
  have hshape : ∃ components, edited = setToken.withComponents components ∧
      ((unit ≤ 0 ∧ 0 < newUnit ∧
          setToken.getExternalPositionModules component = [] ∧
          components = setToken.components ++ [component]) ∨
        (0 < unit ∧ newUnit = 0 ∧
          setToken.getExternalPositionModules component = [] ∧
          components.Perm (setToken.components.erase component)) ∨
        (components = setToken.components ∧
          ((0 < unit ↔ 0 < newUnit) ∨
            setToken.getExternalPositionModules component ≠ []))) := by
    simp only [hasExternalPosition_eq_false, decide_eq_false_iff_not, not_lt,
      decide_eq_true_eq] at hedited
    split at hedited
    · rename_i hadd
      split at hedited
      · rename_i hnone
        obtain ⟨-, -, rfl⟩ := SetToken.addComponent_eq_ok.mp hedited
        exact ⟨_, rfl, Or.inl ⟨hadd.1, hadd.2, hnone, rfl⟩⟩
      · rename_i hsome
        cases hedited
        exact ⟨_, rfl, Or.inr (Or.inr ⟨rfl, Or.inr hsome⟩)⟩
    · rename_i hadd
      split at hedited
      · rename_i hdrop
        split at hedited
        · rename_i hnone
          obtain ⟨-, -, components, hperm, rfl⟩ :=
            SetToken.removeComponent_eq_ok hedited
          exact ⟨_, rfl, Or.inr (Or.inl ⟨hdrop.1, hdrop.2, hnone, hperm⟩)⟩
        · rename_i hsome
          cases hedited
          exact ⟨_, rfl, Or.inr (Or.inr ⟨rfl, Or.inr hsome⟩)⟩
      · rename_i hdrop
        cases hedited
        exact ⟨_, rfl, Or.inr (Or.inr ⟨rfl, Or.inl (by omega)⟩)⟩
  obtain ⟨components, rfl, hcases⟩ := hshape
  exact ⟨unit, virtualUnit, components, hunit, hconvert, rfl, hcases⟩

/-- The new unit spreads what is held, less what was held in excess, over all
shares. -/
theorem calculateDefaultEditPositionUnit_eq_ok
    {supply preTotal postTotal preUnit newUnit : ℕ} :
    calculateDefaultEditPositionUnit supply preTotal postTotal preUnit = .ok newUnit ↔
      preUnit * supply ≤ maxUint256 ∧ preUnit * supply / preciseUnit ≤ preTotal ∧
        preTotal - preUnit * supply / preciseUnit ≤ postTotal ∧
        (postTotal - (preTotal - preUnit * supply / preciseUnit)) * preciseUnit ≤
          maxUint256 ∧ 0 < supply ∧
        (postTotal - (preTotal - preUnit * supply / preciseUnit)) * preciseUnit / supply =
          newUnit := by
  simp only [calculateDefaultEditPositionUnit, bind_eq_ok, preciseMul_eq_ok,
    SafeMath.sub_eq_ok, preciseDiv_eq_ok]
  constructor
  · rintro ⟨_, ⟨hfits, rfl⟩, _, ⟨htracked, rfl⟩, _, ⟨hexcess, rfl⟩, hunit⟩
    exact ⟨hfits, htracked, hexcess, hunit⟩
  · rintro ⟨hfits, htracked, hexcess, hunit⟩
    exact ⟨_, ⟨hfits, rfl⟩, _, ⟨htracked, rfl⟩, _, ⟨hexcess, rfl⟩, hunit⟩

/-- Recomputing a default position is a default edit, whose unit is computed from
the balance unless there is none. -/
theorem calculateAndEditDefaultPosition_eq_ok
    {currentBalance supply previousBalance oldUnit newUnit : ℕ} :
    calculateAndEditDefaultPosition setToken controller sender component currentBalance
        supply previousBalance = .ok (next, oldUnit, newUnit) ↔
      (∃ unit, setToken.getDefaultPositionRealUnit component = .ok unit ∧
        SafeCast.toUint256 unit = .ok oldUnit) ∧
      (if 0 < currentBalance then
        calculateDefaultEditPositionUnit supply previousBalance currentBalance oldUnit
      else .ok 0) = .ok newUnit ∧
      editDefaultPosition setToken controller sender component newUnit = .ok next := by
  simp only [calculateAndEditDefaultPosition, bind_eq_ok, pure_eq_ok, Prod.mk.injEq]
  constructor
  · rintro ⟨unit, hunit, _, hcast, _, hnew, _, hedit, rfl, rfl, rfl⟩
    exact ⟨⟨unit, hunit, hcast⟩, hnew, hedit⟩
  · rintro ⟨⟨unit, hunit, hcast⟩, hnew, hedit⟩
    exact ⟨unit, hunit, _, hcast, _, hnew, _, hedit, rfl, rfl, rfl⟩

/-- Where at least the tracked amount was held, the new unit spreads the tracked
amount, corrected by what came in or went out. -/
theorem recomputedUnit {currentBalance supply previousBalance oldUnit newUnit : ℕ}
    (hcall : calculateAndEditDefaultPosition setToken controller sender component
      currentBalance supply previousBalance = .ok (next, oldUnit, newUnit))
    (htracked : supply * setToken.defaultRealUnit component / preciseUnit ≤
      previousBalance) :
    newUnit = (supply * setToken.defaultRealUnit component / preciseUnit +
      currentBalance - previousBalance) * preciseUnit / supply := by
  obtain ⟨⟨unit, hunit, hcast⟩, hnew, -⟩ := calculateAndEditDefaultPosition_eq_ok.mp hcall
  rw [← SetToken.defaultRealUnit_of_ok hunit hcast, Nat.mul_comm supply] at *
  split at hnew
  · obtain ⟨-, -, -, -, -, rfl⟩ := calculateDefaultEditPositionUnit_eq_ok.mp hnew
    congr 2
    omega
  · cases hnew
    have hnone : setToken.defaultRealUnit component * supply / preciseUnit +
        currentBalance - previousBalance = 0 := by omega
    rw [hnone, Nat.zero_mul, Nat.zero_div]

/-- The unit that a default edit asks for is converted to a virtual unit and read
back; no other unit changes. -/
theorem defaultRealUnit_of_edit (hmultiplier : 0 < setToken.positionMultiplier)
    {newUnit : ℕ}
    (hcall : editDefaultPosition setToken controller sender component newUnit =
      .ok next) :
    next.positionMultiplier = setToken.positionMultiplier ∧
      next.defaultRealUnit component = Rounding.thereAndBack preciseUnit
        setToken.positionMultiplier.toNat newUnit ∧
      ∀ other, other ≠ component →
        next.defaultRealUnit other = setToken.defaultRealUnit other := by
  obtain ⟨_, virtualUnit, _, -, hconvert, rfl, -⟩ := editDefaultPosition_eq_ok hcall
  obtain ⟨rfl, -, -⟩ := SetToken.convertRealToVirtualUnit_sign hmultiplier hconvert
  refine ⟨rfl, ?_, fun other hother => ?_⟩
  · have hcast : (setToken.positionMultiplier.toNat : ℤ) = setToken.positionMultiplier :=
      Int.toNat_of_nonneg hmultiplier.le
    simp only [SetToken.defaultRealUnit, SetToken.defaultPositionVirtualUnit, realUnit,
      SetToken.withPosition, SetToken.withComponents, Function.update_self,
      Rounding.thereAndBack]
    rw [← hcast, ← cast_preciseUnit, Int.toNat_natCast, ← Int.natCast_mul,
      ← Int.natCast_ediv, ← Int.natCast_mul, ← Int.natCast_ediv, Int.toNat_natCast]
  · simp [SetToken.defaultRealUnit, SetToken.defaultPositionVirtualUnit,
      SetToken.withPosition, SetToken.withComponents, hother]

/-- Opening or changing an external position. -/
theorem editExternalPosition_of_ne_zero {newUnit : ℤ} {data : Bytes}
    (hunit : newUnit ≠ 0)
    (hcall : editExternalPosition setToken controller sender component module newUnit
      data = .ok next) :
    ∃ virtualUnit components modules,
      setToken.convertRealToVirtualUnit newUnit = .ok virtualUnit ∧
      next = (setToken.withComponents components).withPosition component
        { setToken.componentPositions component with
          externalPositionModules := modules
          externalPositions := Function.update
            (setToken.componentPositions component).externalPositions module
            ⟨virtualUnit, data⟩ } ∧
      ((component ∉ setToken.components ∧
          components = setToken.components ++ [component]) ∨
        (component ∈ setToken.components ∧ components = setToken.components)) ∧
      ((module ∉ setToken.getExternalPositionModules component ∧
          modules = setToken.getExternalPositionModules component ++ [module]) ∨
        (module ∈ setToken.getExternalPositionModules component ∧
          modules = setToken.getExternalPositionModules component)) := by
  simp only [editExternalPosition, ne_eq, hunit, not_false_eq_true, if_true,
    bind_eq_ok, SetToken.editExternalPositionUnit_eq_ok,
    SetToken.editExternalPositionData_eq_ok] at hcall
  obtain ⟨added, hadded, _, ⟨-, virtualUnit, hconvert, rfl⟩, -, rfl⟩ := hcall
  have hshape : ∃ components modules,
      added = (setToken.withComponents components).withPosition component
        { setToken.componentPositions component with
          externalPositionModules := modules } ∧
      ((component ∉ setToken.components ∧
          components = setToken.components ++ [component]) ∨
        (component ∈ setToken.components ∧ components = setToken.components)) ∧
      ((module ∉ setToken.getExternalPositionModules component ∧
          modules = setToken.getExternalPositionModules component ++ [module]) ∨
        (module ∈ setToken.getExternalPositionModules component ∧
          modules = setToken.getExternalPositionModules component)) := by
    split at hadded
    · rename_i hnew
      rw [Bool.eq_false_iff, ne_eq, SetToken.isComponent_eq_true] at hnew
      simp only [bind_eq_ok, SetToken.addComponent_eq_ok,
        SetToken.addExternalPositionModule_eq_ok] at hadded
      obtain ⟨_, ⟨-, -, rfl⟩, -, hmodule, rfl⟩ := hadded
      exact ⟨_, _, rfl, Or.inl ⟨hnew, rfl⟩, Or.inl ⟨hmodule, rfl⟩⟩
    · rename_i hold
      rw [Bool.not_eq_false, SetToken.isComponent_eq_true] at hold
      split at hadded
      · rw [SetToken.addExternalPositionModule_eq_ok] at hadded
        obtain ⟨-, hmodule, rfl⟩ := hadded
        exact ⟨_, _, rfl, Or.inr ⟨hold, rfl⟩, Or.inl ⟨hmodule, rfl⟩⟩
      · rename_i hlisted
        rw [Bool.not_eq_false, SetToken.isExternalPositionModule_eq_true] at hlisted
        cases hadded
        refine ⟨setToken.components, _, ?_, Or.inr ⟨hold, rfl⟩, Or.inr ⟨hlisted, rfl⟩⟩
        simp [SetToken.withComponents, SetToken.withPosition,
          SetToken.getExternalPositionModules]
  obtain ⟨components, modules, rfl, hcomponents, hmodules⟩ := hshape
  refine ⟨virtualUnit, components, modules, hconvert, ?_, hcomponents, hmodules⟩
  simp [SetToken.withExternalPosition, SetToken.withPosition, SetToken.withComponents]

/-- Closing an external position; nothing happens if there is none. -/
theorem editExternalPosition_of_zero {data : Bytes}
    (hcall : editExternalPosition setToken controller sender component module 0 data =
      .ok next) :
    ∃ unit, setToken.getExternalPositionRealUnit component module = .ok unit ∧
      ((unit = 0 ∧ next = setToken) ∨
        (unit ≠ 0 ∧ ∃ defaultUnit components modules,
          setToken.getDefaultPositionRealUnit component = .ok defaultUnit ∧
          next = (setToken.withComponents components).withPosition component
            { setToken.componentPositions component with
              externalPositionModules := modules
              externalPositions := Function.update
                (setToken.componentPositions component).externalPositions module
                SetToken.noExternalPosition } ∧
          module ∈ setToken.getExternalPositionModules component ∧
          modules.Perm ((setToken.getExternalPositionModules component).erase module) ∧
          ((defaultUnit = 0 ∧
              setToken.getExternalPositionModules component = [module] ∧
              components.Perm (setToken.components.erase component)) ∨
            (¬(defaultUnit = 0 ∧
                (setToken.getExternalPositionModules component).length = 1) ∧
              components = setToken.components)))) := by
  simp only [editExternalPosition, ne_eq, not_true_eq_false, if_false, bind_eq_ok,
    require_eq_ok] at hcall
  obtain ⟨-, -, unit, hunit, hcall⟩ := hcall
  refine ⟨unit, hunit, ?_⟩
  split at hcall
  · rename_i hnonzero
    simp only [bind_eq_ok] at hcall
    obtain ⟨defaultUnit, hdefault, edited, hedited, hremove⟩ := hcall
    have hshape : ∃ components, edited = setToken.withComponents components ∧
        ((defaultUnit = 0 ∧
            setToken.getExternalPositionModules component = [module] ∧
            components.Perm (setToken.components.erase component)) ∨
          (¬(defaultUnit = 0 ∧
              (setToken.getExternalPositionModules component).length = 1) ∧
            components = setToken.components)) := by
      split at hedited
      · rename_i hlast
        obtain ⟨only, honly⟩ := List.length_eq_one_iff.mp hlast.2
        simp only [honly, AddressArrayUtils.readEntry, List.getElem?_cons_zero,
          ok_bind, bind_eq_ok, require_eq_ok, exists_const] at hedited
        obtain ⟨rfl, hdrop⟩ := hedited
        obtain ⟨-, -, components, hperm, rfl⟩ := SetToken.removeComponent_eq_ok hdrop
        exact ⟨components, rfl, Or.inl ⟨hlast.1, honly, hperm⟩⟩
      · rename_i hlast
        cases hedited
        exact ⟨setToken.components, rfl, Or.inr ⟨hlast, rfl⟩⟩
    obtain ⟨components, rfl, hcomponents⟩ := hshape
    obtain ⟨-, hmodule, modules, hperm, rfl⟩ :=
      SetToken.removeExternalPositionModule_eq_ok hremove
    exact Or.inr ⟨hnonzero, defaultUnit, components, modules, hdefault, rfl, hmodule,
      hperm, hcomponents⟩
  · rename_i hzero
    cases hcall
    exact Or.inl ⟨not_not.mp hzero, rfl⟩

/-- An external edit leaves the default units, the multiplier and the supply alone. -/
theorem defaultRealUnit_of_editExternal {newUnit : ℤ} {data : Bytes}
    (hcall : editExternalPosition setToken controller sender component module newUnit
      data = .ok next) :
    next.totalSupply = setToken.totalSupply ∧
      next.positionMultiplier = setToken.positionMultiplier ∧
      ∀ other, next.defaultRealUnit other = setToken.defaultRealUnit other := by
  have hunits : ∀ components modules externalPositions other,
      ((setToken.withComponents components).withPosition component
        { setToken.componentPositions component with
          externalPositionModules := modules
          externalPositions := externalPositions }).defaultRealUnit other =
        setToken.defaultRealUnit other := by
    intro components modules externalPositions other
    by_cases heq : other = component
    · subst heq
      simp [SetToken.defaultRealUnit, SetToken.defaultPositionVirtualUnit,
        SetToken.withPosition, SetToken.withComponents]
    · simp [SetToken.defaultRealUnit, SetToken.defaultPositionVirtualUnit,
        SetToken.withPosition, SetToken.withComponents, heq]
  by_cases hzero : newUnit = 0
  · subst hzero
    obtain ⟨_, -, ⟨-, rfl⟩ | ⟨-, _, _, _, -, rfl, -⟩⟩ := editExternalPosition_of_zero hcall
    · exact ⟨rfl, rfl, fun _ => rfl⟩
    · exact ⟨rfl, rfl, hunits _ _ _⟩
  · obtain ⟨_, _, _, -, rfl, -⟩ := editExternalPosition_of_ne_zero hzero hcall
    exact ⟨rfl, rfl, hunits _ _ _⟩

/-- The unit that a recomputed position ends up with is backed by the balance it was
computed from. -/
theorem backed_of_recomputed {currentBalance supply previousBalance oldUnit newUnit : ℕ}
    (hmultiplier : 0 < setToken.positionMultiplier)
    (hcall : calculateAndEditDefaultPosition setToken controller sender component
      currentBalance supply previousBalance = .ok (next, oldUnit, newUnit))
    (htracked : supply * setToken.defaultRealUnit component / preciseUnit ≤
      previousBalance) :
    supply * next.defaultRealUnit component / preciseUnit ≤ currentBalance := by
  have hnew := recomputedUnit hcall htracked
  obtain ⟨-, -, hedit⟩ := calculateAndEditDefaultPosition_eq_ok.mp hcall
  obtain ⟨-, hunit, -⟩ := defaultRealUnit_of_edit hmultiplier hedit
  generalize hspread : supply * setToken.defaultRealUnit component / preciseUnit +
    currentBalance - previousBalance = spread at hnew
  calc supply * next.defaultRealUnit component / preciseUnit
      ≤ supply * newUnit / preciseUnit := by
        rw [hunit]
        exact Nat.div_le_div_right
          (Nat.mul_le_mul_left supply (thereAndBack_le preciseUnit_pos _ newUnit))
    _ ≤ spread * preciseUnit / preciseUnit := by
        rw [hnew]
        exact Nat.div_le_div_right (Nat.mul_div_le (spread * preciseUnit) supply)
    _ = spread := Nat.mul_div_cancel spread preciseUnit_pos
    _ ≤ currentBalance := by omega

end Position

/-! ## The invariant is kept -/

namespace Bookkept

variable {setToken next : SetToken} {controller : Controller}
variable {sender component module : Address}

/-- Replacing the positions of one component, with the list brought in line. -/
theorem withPosition (hkept : Bookkept setToken) {position : ComponentPosition}
    {components : List Address}
    (hposition : position.Sound setToken.positionMultiplier)
    (hcomponents : Indexes components (fun other =>
      (Function.update setToken.componentPositions component position other).IsPresent)) :
    Bookkept ((setToken.withComponents components).withPosition component position) := by
  refine ⟨hcomponents, fun other => ?_, hkept.multiplier_pos⟩
  by_cases heq : other = component
  · subst heq
    simpa [SetToken.withPosition, SetToken.withComponents] using hposition
  · simpa [SetToken.withPosition, SetToken.withComponents, heq] using
      hkept.positions other

theorem components_of_same (hkept : Bookkept setToken) {position : ComponentPosition}
    (hsame : position.IsPresent ↔ (setToken.componentPositions component).IsPresent) :
    Indexes setToken.components (fun other =>
      (Function.update setToken.componentPositions component position other).IsPresent) := by
  apply hkept.components.congr
  intro other
  by_cases heq : other = component
  · subst heq
    simpa using hsame
  · simp [heq]

theorem components_of_added (hkept : Bookkept setToken) {position : ComponentPosition}
    (habsent : ¬(setToken.componentPositions component).IsPresent)
    (hpresent : position.IsPresent) :
    Indexes (setToken.components ++ [component]) (fun other =>
      (Function.update setToken.componentPositions component position other).IsPresent) := by
  apply hkept.components.push habsent
  intro other
  by_cases heq : other = component
  · subst heq
    simpa using hpresent
  · simp [heq]

theorem components_of_removed (hkept : Bookkept setToken)
    {position : ComponentPosition} {components : List Address}
    (hperm : components.Perm (setToken.components.erase component))
    (habsent : ¬position.IsPresent) :
    Indexes components (fun other =>
      (Function.update setToken.componentPositions component position other).IsPresent) := by
  apply hkept.components.remove hperm
  intro other
  by_cases heq : other = component
  · subst heq
    simpa using habsent
  · simp [heq]

/-- The default real unit of a component has the sign of its stored unit. -/
theorem sign_of_default (hkept : Bookkept setToken) {unit : ℤ}
    (hunit : setToken.getDefaultPositionRealUnit component = .ok unit) :
    unit.sign = (setToken.defaultPositionVirtualUnit component).sign := by
  obtain ⟨-, rfl⟩ := SetToken.convertVirtualToRealUnit_eq_ok.mp hunit
  exact (hkept.positions component).default_sign

theorem sign_of_external (hkept : Bookkept setToken) {unit : ℤ}
    (hunit : setToken.getExternalPositionRealUnit component module = .ok unit) :
    unit.sign = (setToken.externalPositionVirtualUnit component module).sign := by
  obtain ⟨-, rfl⟩ := SetToken.convertVirtualToRealUnit_eq_ok.mp hunit
  exact (hkept.positions component).external_sign module

/-- A token that is no component has no default position. -/
theorem defaultRealUnit_of_not_mem (hkept : Bookkept setToken)
    (habsent : component ∉ setToken.components) : setToken.defaultRealUnit component = 0 := by
  have hunit : ¬0 < setToken.defaultPositionVirtualUnit component := fun hpositive =>
    habsent ((hkept.components.mem_iff component).mpr (Or.inl hpositive))
  have hsign := (hkept.positions component).default_sign
  rw [SetToken.defaultRealUnit, Int.toNat_eq_zero, ← not_lt, ← Int.sign_eq_one_iff_pos]
  rw [← Int.sign_eq_one_iff_pos] at hunit
  exact fun hpositive => hunit (hsign ▸ hpositive)

theorem mem_externalPositionModules (hkept : Bookkept setToken) :
    module ∈ setToken.getExternalPositionModules component ↔
      setToken.externalPositionVirtualUnit component module ≠ 0 :=
  (hkept.positions component).modules.mem_iff module

theorem editDefaultPosition (hkept : Bookkept setToken) {newUnit : ℕ}
    (hcall : Position.editDefaultPosition setToken controller sender component newUnit =
      .ok next) : Bookkept next := by
  obtain ⟨unit, virtualUnit, components, hunit, hconvert, rfl, hcases⟩ :=
    Position.editDefaultPosition_eq_ok hcall
  obtain ⟨-, hsign, hback⟩ :=
    SetToken.convertRealToVirtualUnit_sign hkept.multiplier_pos hconvert
  have hold := hkept.positions component
  have hpos : 0 < virtualUnit ↔ 0 < newUnit := by
    rw [← Int.sign_eq_one_iff_pos, hsign, Int.sign_eq_one_iff_pos]
    exact Nat.cast_pos
  have hnonneg : 0 ≤ virtualUnit := by
    rw [← Int.sign_nonneg_iff, hsign, Int.sign_nonneg_iff]
    exact Int.natCast_nonneg newUnit
  have hdefault : 0 < unit ↔ 0 < (setToken.componentPositions component).virtualUnit := by
    rw [← Int.sign_eq_one_iff_pos, hkept.sign_of_default hunit, Int.sign_eq_one_iff_pos]
    rfl
  refine hkept.withPosition ⟨hnonneg, hback, hold.modules, hold.external_sign⟩ ?_
  rcases hcases with ⟨hnone, hsome, hmodules, rfl⟩ | ⟨hsome, hnone, hmodules, hperm⟩ |
    ⟨rfl, hsame⟩
  · -- the first position of the component
    apply hkept.components_of_added
    · rintro (hdefaultUnit | hexternal)
      · exact absurd (hdefault.mpr hdefaultUnit) (not_lt.mpr hnone)
      · exact hexternal hmodules
    · exact Or.inl (hpos.mpr hsome)
  · -- its last position
    apply hkept.components_of_removed hperm
    rintro (hdefaultUnit | hexternal)
    · have hnewUnit := hpos.mp hdefaultUnit
      omega
    · exact hexternal hmodules
  · apply hkept.components_of_same
    rcases hsame with hsame | hexternal
    · exact or_congr (by rw [hpos, ← hsame, hdefault]) Iff.rfl
    · exact ⟨fun _ => Or.inr hexternal, fun _ => Or.inr hexternal⟩

theorem editExternalPosition (hkept : Bookkept setToken) {newUnit : ℤ} {data : Bytes}
    (hcall : Position.editExternalPosition setToken controller sender component module
      newUnit data = .ok next) : Bookkept next := by
  have hold := hkept.positions component
  by_cases hzero : newUnit = 0
  · subst hzero
    obtain ⟨unit, hunit, ⟨-, rfl⟩ | ⟨hnonzero, defaultUnit, components, modules,
      hdefaultUnit, rfl, hmodule, hperm, hcomponents⟩⟩ :=
        Position.editExternalPosition_of_zero hcall
    · exact hkept
    -- the position is deleted along with its entry in the module list
    have hmodules : Indexes modules (fun other => (Function.update
        (setToken.componentPositions component).externalPositions module
        SetToken.noExternalPosition other).virtualUnit ≠ 0) := by
      apply hold.modules.remove hperm
      intro other
      by_cases heq : other = module
      · simp [heq, SetToken.noExternalPosition]
      · simp [heq]
    have hdefault : defaultUnit = 0 ↔
        ¬0 < (setToken.componentPositions component).virtualUnit := by
      rw [← Int.sign_eq_zero_iff_zero, hkept.sign_of_default hdefaultUnit,
        Int.sign_eq_zero_iff_zero]
      have hnonneg := hold.default_nonneg
      simp only [SetToken.defaultPositionVirtualUnit]
      omega
    have hlength := hperm.length_eq
    rw [List.length_erase_of_mem hmodule] at hlength
    refine hkept.withPosition
      ⟨hold.default_nonneg, hold.default_sign, hmodules, fun other => ?_⟩ ?_
    · by_cases heq : other = module
      · simp [heq, SetToken.noExternalPosition, realUnit]
      · simpa [heq] using hold.external_sign other
    · rcases hcomponents with ⟨hnone, honly, hremoved⟩ | ⟨hothers, rfl⟩
      · apply hkept.components_of_removed hremoved
        rintro (hpositive | hremaining)
        · exact hdefault.mp hnone hpositive
        · rw [honly] at hlength
          exact hremaining (List.length_eq_zero_iff.mp (by simpa using hlength))
      · apply hkept.components_of_same
        have hlisted := List.length_pos_of_mem hmodule
        constructor
        · rintro (hpositive | -)
          · exact Or.inl hpositive
          · exact Or.inr (List.ne_nil_of_mem hmodule)
        · intro _
          by_cases hpositive : 0 < (setToken.componentPositions component).virtualUnit
          · exact Or.inl hpositive
          · right
            have hseveral :
                (setToken.getExternalPositionModules component).length ≠ 1 :=
              fun hone => hothers ⟨hdefault.mpr hpositive, hone⟩
            rintro rfl
            simp only [List.length_nil] at hlength
            omega
  · obtain ⟨virtualUnit, components, modules, hconvert, rfl, hcomponents, hmodules⟩ :=
      Position.editExternalPosition_of_ne_zero hzero hcall
    obtain ⟨-, hsign, hback⟩ :=
      SetToken.convertRealToVirtualUnit_sign hkept.multiplier_pos hconvert
    have hnonzero : virtualUnit ≠ 0 := by
      rw [ne_eq, ← Int.sign_eq_zero_iff_zero, hsign, Int.sign_eq_zero_iff_zero]
      exact hzero
    have hindex : Indexes modules (fun other => (Function.update
        (setToken.componentPositions component).externalPositions module
        ⟨virtualUnit, data⟩ other).virtualUnit ≠ 0) := by
      rcases hmodules with ⟨hnew, rfl⟩ | ⟨hlisted, rfl⟩
      · apply hold.modules.push (fun hunit => hnew ((hold.modules.mem_iff _).mpr hunit))
        intro other
        by_cases heq : other = module
        · simp [heq, hnonzero]
        · simp [heq]
      · apply hold.modules.congr
        intro other
        by_cases heq : other = module
        · simpa [heq, hnonzero] using (hold.modules.mem_iff module).mp hlisted
        · simp [heq]
    have hlisted : modules ≠ [] := by
      rcases hmodules with ⟨-, rfl⟩ | ⟨hmem, rfl⟩
      · simp
      · exact List.ne_nil_of_mem hmem
    refine hkept.withPosition
      ⟨hold.default_nonneg, hold.default_sign, hindex, fun other => ?_⟩ ?_
    · by_cases heq : other = module
      · simpa [heq] using hback
      · simpa [heq] using hold.external_sign other
    · rcases hcomponents with ⟨hnew, rfl⟩ | ⟨hmem, rfl⟩
      · exact hkept.components_of_added
          (fun hpresent => hnew ((hkept.components.mem_iff component).mpr hpresent))
          (Or.inr hlisted)
      · apply hkept.components_of_same
        exact ⟨fun _ => (hkept.components.mem_iff component).mp hmem,
          fun _ => Or.inr hlisted⟩

theorem editPositionMultiplier (hkept : Bookkept setToken) {newMultiplier : ℤ}
    (hcall : setToken.editPositionMultiplier controller sender newMultiplier =
      .ok next) : Bookkept next := by
  obtain ⟨-, hvalid, rfl⟩ := SetToken.editPositionMultiplier_eq_ok.mp hcall
  obtain ⟨hmultiplier, hunits⟩ := SetToken.validateNewMultiplier_eq_ok hvalid
  refine ⟨hkept.components, fun component => ?_, hmultiplier⟩
  have hold := hkept.positions component
  refine { hold with default_sign := ?_, external_sign := fun module => ?_ }
  · apply sign_mul_ediv hmultiplier preciseUnitInt_pos
    intro hpositive
    have hmem := (hkept.components.mem_iff component).mpr (Or.inl hpositive)
    exact (hunits component hmem).1 hpositive
  · apply sign_mul_ediv hmultiplier preciseUnitInt_pos
    intro hpositive
    have hmodule := (hold.modules.mem_iff module).mpr hpositive.ne'
    have hmem := (hkept.components.mem_iff component).mpr
      (Or.inr (List.ne_nil_of_mem hmodule))
    exact (hunits component hmem).2 module hmodule hpositive

/-- The invariant only reads the positions. -/
theorem of_same_positions (hkept : Bookkept setToken)
    (hcomponents : next.components = setToken.components)
    (hpositions : next.componentPositions = setToken.componentPositions)
    (hmultiplier : next.positionMultiplier = setToken.positionMultiplier) :
    Bookkept next := by
  refine ⟨?_, ?_, ?_⟩
  · rw [hcomponents, hpositions]
    exact hkept.components
  · rw [hpositions, hmultiplier]
    exact hkept.positions
  · rw [hmultiplier]
    exact hkept.multiplier_pos

end Bookkept

end SetProtocol
