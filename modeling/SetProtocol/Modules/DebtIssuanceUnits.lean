import SetProtocol.Core.ExternalPositions
import SetProtocol.Library.Tally
import SetProtocol.Modules.DebtIssuanceBacking

/-!
# Units of issuance with external positions

The equity of a component is its default unit and all positive external units, its debt
all negative ones.  Both are rounded once, after adding up.
-/

namespace SetProtocol

/-- What a position of another module counts for, as equity. -/
def SetToken.externalEquityUnit (setToken : SetToken) (component module : Address) : ℕ :=
  (setToken.externalRealUnit component module).toNat

/-- What it counts for, as debt. -/
def SetToken.externalDebtUnit (setToken : SetToken) (component module : Address) : ℕ :=
  (-setToken.externalRealUnit component module).toNat

namespace DebtIssuanceModule

open Transaction PreciseUnitMath

variable {setToken : SetToken} {component : Address} {quantity : ℕ} {isIssue : Bool}

def equityUnits (setToken : SetToken) (component : Address) : ℕ :=
  setToken.defaultRealUnit component +
    Tally.total (setToken.getExternalPositionModules component)
      (setToken.externalEquityUnit component)

def debtUnits (setToken : SetToken) (component : Address) : ℕ :=
  Tally.total (setToken.getExternalPositionModules component)
    (setToken.externalDebtUnit component)

theorem debtUnits_pos_iff : 0 < debtUnits setToken component ↔
    ∃ module ∈ setToken.getExternalPositionModules component,
      setToken.externalRealUnit component module < 0 := by
  rw [debtUnits, Tally.total_pos_iff]
  simp [SetToken.externalDebtUnit]

/-- The notional amount of a component's debt, rounded the other way around. -/
def notionalDebt (unit quantity : ℕ) (isIssue : Bool) : ℕ :=
  if isIssue = true then unit * quantity / preciseUnit
  else unit * quantity ⌈/⌉ preciseUnit

theorem notionalDebt_issue (unit quantity : ℕ) :
    notionalDebt unit quantity true = unit * quantity / preciseUnit := if_pos rfl

theorem notionalDebt_redeem (unit quantity : ℕ) :
    notionalDebt unit quantity false = unit * quantity ⌈/⌉ preciseUnit :=
  if_neg Bool.false_ne_true

/-- The inner loop sorts the units by sign. -/
theorem addExternalUnit_foldlM {modules : List Address} {start units : ℤ × ℤ}
    (hcall : modules.foldlM (addExternalUnit setToken component) start = .ok units) :
    units.1 = start.1 + Tally.total modules (setToken.externalEquityUnit component) ∧
      units.2 = start.2 - Tally.total modules (setToken.externalDebtUnit component) := by
  induction modules generalizing start with
  | nil =>
    rw [List.foldlM_nil, pure_eq_ok] at hcall
    subst hcall
    simp [Tally.total]
  | cons module modules ih =>
    rw [List.foldlM_cons, bind_eq_ok] at hcall
    obtain ⟨middle, hmiddle, hrest⟩ := hcall
    obtain ⟨hequity, hdebt⟩ := ih hrest
    simp only [addExternalUnit, bind_eq_ok] at hmiddle
    obtain ⟨unit, hunit, hmiddle⟩ := hmiddle
    obtain rfl := SetToken.getExternalPositionRealUnit_eq_ok hunit
    simp only [Tally.total, List.map_cons, List.sum_cons, Nat.cast_add] at hequity hdebt ⊢
    rw [hequity, hdebt, SetToken.externalEquityUnit, SetToken.externalDebtUnit]
    split at hmiddle <;>
      simp only [bind_eq_ok, SignedSafeMath.add_eq_ok, pure_eq_ok] at hmiddle <;>
      obtain ⟨_, ⟨-, rfl⟩, rfl⟩ := hmiddle
    · constructor <;> omega
    · constructor <;> omega

theorem totalUnits_eq_ok (hkept : Bookkept setToken) {units : ComponentUnits}
    (hcall : totalIssuanceUnits setToken component = .ok units) :
    units = ⟨component, equityUnits setToken component, debtUnits setToken component⟩ := by
  simp only [totalIssuanceUnits, bind_eq_ok, SignedSafeMath.mul_eq_ok,
    SafeCast.toUint256_eq_ok, pure_eq_ok] at hcall
  obtain ⟨unit, hunit, ⟨equity, debt⟩, hloop, equityUnit, hequity, _, ⟨-, rfl⟩, debtUnit,
    hdebt, rfl⟩ := hcall
  obtain ⟨hequities, hdebts⟩ := addExternalUnit_foldlM hloop
  have hdefault : unit = (setToken.defaultRealUnit component : ℤ) := by
    rw [SetToken.getDefaultPositionRealUnit_eq_ok hunit, SetToken.defaultRealUnit]
    exact (Int.toNat_of_nonneg (Int.ediv_nonneg
      (mul_nonneg (hkept.positions component).default_nonneg hkept.multiplier_pos.le)
      preciseUnitInt_pos.le)).symm
  change equity = unit + _ at hequities
  change debt = 0 - _ at hdebts
  change equity = _ at hequity
  rw [ComponentUnits.mk.injEq, equityUnits, debtUnits]
  refine ⟨rfl, ?_, ?_⟩ <;> omega

theorem requiredUnits_eq_ok {total units : ComponentUnits}
    (hcall : requiredIssuanceUnits quantity isIssue total = .ok units) :
    units = ⟨total.component, notional total.equity quantity isIssue,
      notionalDebt total.debt quantity isIssue⟩ := by
  simp only [requiredIssuanceUnits, bind_eq_ok, pure_eq_ok] at hcall
  obtain ⟨equity, hequity, debt, hdebt, rfl⟩ := hcall
  rw [notional, notionalDebt]
  cases isIssue
  · simp only [Bool.false_eq_true, if_false, preciseMulCeil_eq_ok,
      preciseMul_eq_ok] at hequity hdebt ⊢
    rw [hequity.2, hdebt.2]
  · simp only [if_true, preciseMulCeil_eq_ok, preciseMul_eq_ok] at hequity hdebt ⊢
    rw [hequity.2, hdebt.2]

/-- The components are charged in order, each for all of its units. -/
theorem requiredComponentUnits_eq_ok (hkept : Bookkept setToken)
    {required : List ComponentUnits}
    (hcall : calculateRequiredComponentIssuanceUnits setToken quantity isIssue =
      .ok required) :
    required.map ComponentUnits.component = setToken.components ∧
      ∀ units ∈ required,
        units.equity =
          notional (equityUnits setToken units.component) quantity isIssue ∧
        units.debt =
          notionalDebt (debtUnits setToken units.component) quantity isIssue := by
  simp only [calculateRequiredComponentIssuanceUnits, getTotalIssuanceUnits,
    bind_eq_ok] at hcall
  obtain ⟨totals, htotals, hrequired⟩ := hcall
  refine ⟨?_, fun units hunits => ?_⟩
  · calc required.map ComponentUnits.component = totals.map ComponentUnits.component :=
        map_of_mapM_eq_ok ComponentUnits.component ComponentUnits.component
          (fun total _ units hunits => by rw [requiredUnits_eq_ok hunits]) hrequired
      _ = setToken.components.map id :=
        map_of_mapM_eq_ok id ComponentUnits.component
          (fun component _ total htotal => by rw [totalUnits_eq_ok hkept htotal, id]) htotals
      _ = setToken.components := List.map_id _
  · obtain ⟨total, htotal, hcharged⟩ := mem_of_mapM_eq_ok hrequired hunits
    obtain ⟨component, -, htotal⟩ := mem_of_mapM_eq_ok htotals htotal
    obtain rfl := totalUnits_eq_ok hkept htotal
    obtain rfl := requiredUnits_eq_ok hcharged
    exact ⟨rfl, rfl⟩

end DebtIssuanceModule

end SetProtocol
