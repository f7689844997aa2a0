import SetProtocol.Core.Bookkeeping

/-!
# External positions

Lending and staking modules keep what a SetToken has elsewhere as external positions.
The edits of positions change the external unit they are about and no other, and a
module is listed for a component exactly if its unit is not zero.
-/

namespace SetProtocol

open Transaction PreciseUnitMath

/-- The real unit of a module's external position. -/
def SetToken.externalRealUnit (setToken : SetToken) (component module : Address) : ℤ :=
  realUnit setToken.positionMultiplier
    (setToken.externalPositionVirtualUnit component module)

theorem SetToken.getExternalPositionRealUnit_eq_ok {setToken : SetToken}
    {component module : Address} {unit : ℤ}
    (hunit : setToken.getExternalPositionRealUnit component module = .ok unit) :
    unit = setToken.externalRealUnit component module :=
  (SetToken.convertVirtualToRealUnit_eq_ok.mp hunit).2.symm

namespace Position

variable {setToken next : SetToken} {controller : Controller}
variable {sender component module : Address}

/-- `_updateExternalPosition` where a module first checks that the unit is new. -/
def updateExternalPosition (module : Address) (setToken : SetToken)
    (controller : Controller) (component : Address) (newPositionUnit : ℤ) :
    Outcome SetToken := do
  let previousPositionUnit ← setToken.getExternalPositionRealUnit component module
  if previousPositionUnit ≠ newPositionUnit then
    editExternalPosition setToken controller module component module newPositionUnit []
  else pure setToken

/-- Default edits leave all external units alone. -/
theorem externalUnits_of_editDefault {newUnit : ℕ}
    (hcall : editDefaultPosition setToken controller sender component newUnit =
      .ok next) :
    next.totalSupply = setToken.totalSupply ∧
      next.positionMultiplier = setToken.positionMultiplier ∧
      next.externalPositionVirtualUnit = setToken.externalPositionVirtualUnit := by
  obtain ⟨_, _, _, -, -, rfl, -⟩ := editDefaultPosition_eq_ok hcall
  refine ⟨rfl, rfl, ?_⟩
  funext other module
  by_cases heq : other = component
  · subst heq
    simp [SetToken.externalPositionVirtualUnit, SetToken.withPosition,
      SetToken.withComponents]
  · simp [SetToken.externalPositionVirtualUnit, SetToken.withPosition,
      SetToken.withComponents, heq]

/-- An external edit writes the converted unit and leaves the other ones alone. -/
theorem externalUnits_of_editExternal (hkept : Bookkept setToken) {newUnit : ℤ}
    {data : Bytes}
    (hcall : editExternalPosition setToken controller sender component module newUnit
      data = .ok next) :
    next.externalPositionVirtualUnit component module =
        newUnit * preciseUnitInt / setToken.positionMultiplier ∧
      (next.externalPositionVirtualUnit component module).sign = newUnit.sign ∧
      ∀ other otherModule, other ≠ component ∨ otherModule ≠ module →
        next.externalPositionVirtualUnit other otherModule =
          setToken.externalPositionVirtualUnit other otherModule := by
  have hothers : ∀ components modules position other otherModule,
      other ≠ component ∨ otherModule ≠ module →
      ((setToken.withComponents components).withPosition component
        { setToken.componentPositions component with
          externalPositionModules := modules
          externalPositions := Function.update
            (setToken.componentPositions component).externalPositions module
            position }).externalPositionVirtualUnit other otherModule =
        setToken.externalPositionVirtualUnit other otherModule := by
    intro components modules position other otherModule hdiffer
    by_cases heq : other = component
    · subst heq
      have hmodule : otherModule ≠ module := hdiffer.resolve_left fun hne => hne rfl
      simp [SetToken.externalPositionVirtualUnit, SetToken.withPosition,
        SetToken.withComponents, hmodule]
    · simp [SetToken.externalPositionVirtualUnit, SetToken.withPosition,
        SetToken.withComponents, heq]
  by_cases hzero : newUnit = 0
  · subst hzero
    obtain ⟨unit, hunit, ⟨rfl, rfl⟩ | ⟨-, _, _, _, -, rfl, -⟩⟩ :=
      editExternalPosition_of_zero hcall
    · have hnone := hkept.sign_of_external hunit
      rw [Int.sign_zero, eq_comm, Int.sign_eq_zero_iff_zero] at hnone
      refine ⟨?_, by rw [hnone], fun _ _ _ => rfl⟩
      rw [hnone, Int.zero_mul, Int.zero_ediv]
    · have hnone : ∀ components modules,
          ((setToken.withComponents components).withPosition component
            { setToken.componentPositions component with
              externalPositionModules := modules
              externalPositions := Function.update
                (setToken.componentPositions component).externalPositions module
                SetToken.noExternalPosition }).externalPositionVirtualUnit component module =
            0 := by
        intro components modules
        simp [SetToken.externalPositionVirtualUnit, SetToken.withPosition,
          SetToken.withComponents, SetToken.noExternalPosition]
      refine ⟨?_, by rw [hnone], hothers _ _ _⟩
      rw [hnone, Int.zero_mul, Int.zero_ediv]
  · obtain ⟨virtualUnit, components, modules, hconvert, rfl, -⟩ :=
      editExternalPosition_of_ne_zero hzero hcall
    obtain ⟨hvirtual, hsign, -⟩ :=
      SetToken.convertRealToVirtualUnit_sign hkept.multiplier_pos hconvert
    have hwritten : ((setToken.withComponents components).withPosition component
        { setToken.componentPositions component with
          externalPositionModules := modules
          externalPositions := Function.update
            (setToken.componentPositions component).externalPositions module
            ⟨virtualUnit, data⟩ }).externalPositionVirtualUnit component module =
        virtualUnit := by
      simp [SetToken.externalPositionVirtualUnit, SetToken.withPosition,
        SetToken.withComponents]
    rw [hwritten]
    exact ⟨hvirtual, hsign, hothers _ _ _⟩

/-- Everything that an update of one external position leaves as it was. -/
structure OnlyExternal (component module : Address) (setToken next : SetToken) : Prop where
  bookkept : Bookkept setToken → Bookkept next
  totalSupply : next.totalSupply = setToken.totalSupply
  positionMultiplier : next.positionMultiplier = setToken.positionMultiplier
  defaultRealUnit : ∀ other, next.defaultRealUnit other = setToken.defaultRealUnit other
  externalUnits : ∀ other otherModule, other ≠ component ∨ otherModule ≠ module →
    next.externalPositionVirtualUnit other otherModule =
      setToken.externalPositionVirtualUnit other otherModule

theorem onlyExternal_of_edit (hkept : Bookkept setToken) {newUnit : ℤ} {data : Bytes}
    (hcall : editExternalPosition setToken controller sender component module newUnit
      data = .ok next) : OnlyExternal component module setToken next := by
  obtain ⟨hsupply, hmultiplier, hunits⟩ := defaultRealUnit_of_editExternal hcall
  exact ⟨fun _ => hkept.editExternalPosition hcall, hsupply, hmultiplier, hunits,
    (externalUnits_of_editExternal hkept hcall).2.2⟩

theorem OnlyExternal.refl (setToken : SetToken) : OnlyExternal component module setToken setToken :=
  ⟨id, rfl, rfl, fun _ => rfl, fun _ _ _ => rfl⟩

/-- A unit is read back at or below what was written, with the same sign. -/
theorem updateExternalPosition_eq_ok (hkept : Bookkept setToken) {newPositionUnit : ℤ}
    (hcall : updateExternalPosition module setToken controller component newPositionUnit =
      .ok next) :
    OnlyExternal component module setToken next ∧
      next.externalRealUnit component module ≤ newPositionUnit ∧
      (next.externalPositionVirtualUnit component module).sign = newPositionUnit.sign := by
  simp only [updateExternalPosition, bind_eq_ok] at hcall
  obtain ⟨previous, hprevious, hedited⟩ := hcall
  split at hedited
  · have honly := onlyExternal_of_edit hkept hedited
    obtain ⟨hvirtual, hsign, -⟩ := externalUnits_of_editExternal hkept hedited
    refine ⟨honly, ?_, hsign⟩
    rw [SetToken.externalRealUnit, honly.positionMultiplier, hvirtual, realUnit]
    calc newPositionUnit * preciseUnitInt / setToken.positionMultiplier *
          setToken.positionMultiplier / preciseUnitInt
        ≤ newPositionUnit * preciseUnitInt / preciseUnitInt :=
          Int.ediv_le_ediv preciseUnitInt_pos
            (Int.ediv_mul_le _ hkept.multiplier_pos.ne')
      _ = newPositionUnit := Int.mul_ediv_cancel _ preciseUnitInt_pos.ne'
  · rename_i hsame
    rw [not_not] at hsame
    rw [pure_eq_ok] at hedited
    subst hedited
    subst hsame
    exact ⟨OnlyExternal.refl setToken,
      (SetToken.getExternalPositionRealUnit_eq_ok hprevious).ge,
      (hkept.sign_of_external hprevious).symm⟩

/-- A module is listed for the components of which it has a real unit. -/
theorem mem_modules_of_update (hkept : Bookkept setToken) {newPositionUnit : ℤ}
    (hcall : updateExternalPosition module setToken controller component newPositionUnit =
      .ok next) :
    (module ∈ next.getExternalPositionModules component ↔ newPositionUnit ≠ 0) ∧
      ∀ other, other ≠ component → (module ∈ next.getExternalPositionModules other ↔
        module ∈ setToken.getExternalPositionModules other) := by
  obtain ⟨honly, -, hsign⟩ := updateExternalPosition_eq_ok hkept hcall
  have hnext := honly.bookkept hkept
  refine ⟨?_, fun other hother => ?_⟩
  · rw [hnext.mem_externalPositionModules, ne_eq, ← Int.sign_eq_zero_iff_zero, hsign,
      Int.sign_eq_zero_iff_zero]
  · rw [hnext.mem_externalPositionModules, hkept.mem_externalPositionModules,
      honly.externalUnits other module (Or.inl hother)]

end Position

end SetProtocol
