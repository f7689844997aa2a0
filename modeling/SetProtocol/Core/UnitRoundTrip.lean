import SetProtocol.Core.PositionCredit

/-!
# Real units, virtual units and back

A real unit is stored divided by the position multiplier, and read back multiplied with
it.  Both steps round down, for assets and for debt, so that the way there and back loses
at most one unit for each begun unit of the multiplier.
-/

namespace SetProtocol.SetToken

open Transaction PreciseUnitMath Rounding

/-- What the real unit becomes on the way there. -/
def virtualUnitOf (multiplier unit : ℤ) : ℤ := unit * preciseUnitInt / multiplier

/-- What is read back. -/
def unitBack (multiplier unit : ℤ) : ℤ := realUnit multiplier (virtualUnitOf multiplier unit)

variable {setToken : SetToken} {multiplier unit other : ℤ}

theorem unitBack_le (hmultiplier : 0 < multiplier) : unitBack multiplier unit ≤ unit := by
  have hvirtual := Int.ediv_mul_le (unit * preciseUnitInt) hmultiplier.ne'
  exact Int.ediv_le_of_le_mul preciseUnitInt_pos hvirtual

/-- Each of the two divisions loses less than one, the first one scaled by the multiplier. -/
theorem le_unitBack (hmultiplier : 0 < multiplier) :
    unit - (multiplier.toNat ⌈/⌉ preciseUnit : ℕ) ≤ unitBack multiplier unit := by
  have hbegun : multiplier ≤ (multiplier.toNat ⌈/⌉ preciseUnit : ℕ) * preciseUnitInt := by
    have hceil := le_smul_ceilDiv (b := multiplier.toNat) preciseUnit_pos
    rw [smul_eq_mul, mul_comm] at hceil
    calc multiplier = (multiplier.toNat : ℤ) := (Int.toNat_of_nonneg hmultiplier.le).symm
      _ ≤ ((multiplier.toNat ⌈/⌉ preciseUnit * preciseUnit : ℕ) : ℤ) := by exact_mod_cast hceil
      _ = (multiplier.toNat ⌈/⌉ preciseUnit : ℕ) * preciseUnitInt := by
        rw [Nat.cast_mul, cast_preciseUnit]
  have hvirtual : unit * preciseUnitInt <
      virtualUnitOf multiplier unit * multiplier + multiplier := by
    have hfloor := Int.lt_ediv_add_one_mul_self (unit * preciseUnitInt) hmultiplier
    rwa [add_mul, one_mul] at hfloor
  rw [unitBack, realUnit, Int.le_ediv_iff_mul_le preciseUnitInt_pos, sub_mul]
  linarith only [hbegun, hvirtual]

theorem unitBack_mono (hmultiplier : 0 < multiplier) (hle : unit ≤ other) :
    virtualUnitOf multiplier unit ≤ virtualUnitOf multiplier other ∧
      unitBack multiplier unit ≤ unitBack multiplier other := by
  have hvirtual : virtualUnitOf multiplier unit ≤ virtualUnitOf multiplier other :=
    Int.ediv_le_ediv hmultiplier (mul_le_mul_of_nonneg_right hle preciseUnitInt_pos.le)
  exact ⟨hvirtual, Int.ediv_le_ediv preciseUnitInt_pos
    (mul_le_mul_of_nonneg_right hvirtual hmultiplier.le)⟩

theorem unitBack_of_unit : unitBack preciseUnitInt unit = unit := by
  rw [unitBack, virtualUnitOf, realUnit, Int.mul_ediv_cancel _ preciseUnitInt_pos.ne',
    Int.mul_ediv_cancel _ preciseUnitInt_pos.ne']

/-- On units that are not negative. -/
theorem unitBack_natCast (hmultiplier : 0 < multiplier) (unit : ℕ) :
    unitBack multiplier unit = (thereAndBack preciseUnit multiplier.toNat unit : ℕ) := by
  have hcast : (multiplier.toNat : ℤ) = multiplier := Int.toNat_of_nonneg hmultiplier.le
  rw [unitBack, virtualUnitOf, realUnit, ← hcast, ← cast_preciseUnit, Int.toNat_natCast,
    ← Nat.cast_mul, ← Int.natCast_ediv, ← Nat.cast_mul, ← Int.natCast_ediv, thereAndBack]

/-- The conversion is refused for a product that overflows, or for a positive unit that
would be read back as zero. -/
theorem convertRealToVirtualUnit_refused (hmultiplier : 0 < setToken.positionMultiplier)
    (hrefused : ¬ ∃ virtualUnit, setToken.convertRealToVirtualUnit unit = .ok virtualUnit) :
    ¬ FitsInt256 (unit * preciseUnitInt) ∨
      0 < unit ∧ unitBack setToken.positionMultiplier unit = 0 := by
  by_contra hneither
  obtain ⟨hfits, hkept⟩ := not_or.mp hneither
  rw [not_not] at hfits
  apply hrefused
  have hconverts : conservativePreciseDiv unit setToken.positionMultiplier =
      .ok (virtualUnitOf setToken.positionMultiplier unit) :=
    (conservativePreciseDiv_eq_ok hmultiplier).mpr ⟨hfits, rfl⟩
  by_cases hpositive : 0 < unit
  · have hback : unitBack setToken.positionMultiplier unit ≠ 0 := fun hzero =>
      hkept ⟨hpositive, hzero⟩
    have hvirtual : virtualUnitOf setToken.positionMultiplier unit ≠ 0 := by
      intro hzero
      apply hback
      rw [unitBack, hzero, realUnit, zero_mul, Int.zero_ediv]
    have hreads : setToken.convertVirtualToRealUnit
        (virtualUnitOf setToken.positionMultiplier unit) =
          .ok (unitBack setToken.positionMultiplier unit) := by
      -- a positive unit is not scaled up again above the product that fitted
      have hnonneg : 0 ≤ unit * preciseUnitInt :=
        mul_nonneg hpositive.le preciseUnitInt_pos.le
      have hlow : minInt256 ≤ 0 := by decide
      have hless := Int.ediv_mul_le (unit * preciseUnitInt) hmultiplier.ne'
      exact convertVirtualToRealUnit_eq_ok.mpr
        ⟨⟨hlow.trans (mul_nonneg (Int.ediv_nonneg hnonneg hmultiplier.le) hmultiplier.le),
          hless.trans hfits.2⟩, rfl⟩
    exact ⟨_, by rw [convertRealToVirtualUnit, hconverts, ok_bind, if_pos hpositive, require,
      if_pos hvirtual, ok_bind, hreads, ok_bind, require, if_pos hback, ok_bind]; rfl⟩
  · exact ⟨_, by rw [convertRealToVirtualUnit, hconverts, ok_bind, if_neg hpositive]; rfl⟩

/-- A unit that is stored is read back at most as large, of the same sign and short of at
most one for each begun unit of the multiplier; larger units are stored and read back as
larger ones.  Nothing but an overflow, or a positive unit that would vanish, is refused. -/
theorem unit_roundTrip (hmultiplier : 0 < setToken.positionMultiplier) :
    (∀ unit virtualUnit back, setToken.convertRealToVirtualUnit unit = .ok virtualUnit →
      setToken.convertVirtualToRealUnit virtualUnit = .ok back →
        unit - (setToken.positionMultiplier.toNat ⌈/⌉ preciseUnit : ℕ) ≤ back ∧ back ≤ unit ∧
        back.sign = unit.sign ∧ (back = 0 → unit = 0) ∧
        (setToken.positionMultiplier = preciseUnitInt → back = unit)) ∧
    (∀ unit other virtualUnit virtualOther, unit ≤ other →
      setToken.convertRealToVirtualUnit unit = .ok virtualUnit →
      setToken.convertRealToVirtualUnit other = .ok virtualOther →
        virtualUnit ≤ virtualOther ∧
        ∀ back backOther, setToken.convertVirtualToRealUnit virtualUnit = .ok back →
          setToken.convertVirtualToRealUnit virtualOther = .ok backOther → back ≤ backOther) ∧
    (∀ unit, (¬ ∃ virtualUnit, setToken.convertRealToVirtualUnit unit = .ok virtualUnit) →
      ¬ FitsInt256 (unit * preciseUnitInt) ∨
        0 < unit ∧ unitBack setToken.positionMultiplier unit = 0) ∧
    ∀ virtualUnit, (¬ ∃ back, setToken.convertVirtualToRealUnit virtualUnit = .ok back) →
      ¬ FitsInt256 (virtualUnit * setToken.positionMultiplier) := by
  refine ⟨?_, ?_, fun _ hrefused => convertRealToVirtualUnit_refused hmultiplier hrefused, ?_⟩
  · intro unit virtualUnit back hconvert hback
    obtain ⟨rfl, hsign, hreal⟩ := convertRealToVirtualUnit_sign hmultiplier hconvert
    obtain ⟨-, rfl⟩ := convertVirtualToRealUnit_eq_ok.mp hback
    refine ⟨le_unitBack hmultiplier, unitBack_le hmultiplier, hreal.trans hsign, ?_, ?_⟩
    · intro hzero
      rw [← Int.sign_eq_zero_iff_zero, ← hsign, ← hreal, hzero, Int.sign_zero]
    · intro hone
      rw [hone]
      exact unitBack_of_unit
  · intro unit other virtualUnit virtualOther hle hconvert hother
    obtain ⟨rfl, -, -⟩ := convertRealToVirtualUnit_sign hmultiplier hconvert
    obtain ⟨rfl, -, -⟩ := convertRealToVirtualUnit_sign hmultiplier hother
    obtain ⟨hvirtual, hreal⟩ := unitBack_mono hmultiplier hle
    refine ⟨hvirtual, fun back backOther hback hbackOther => ?_⟩
    obtain ⟨-, rfl⟩ := convertVirtualToRealUnit_eq_ok.mp hback
    obtain ⟨-, rfl⟩ := convertVirtualToRealUnit_eq_ok.mp hbackOther
    exact hreal
  · intro virtualUnit hrefused hfits
    exact hrefused ⟨_, convertVirtualToRealUnit_eq_ok.mpr ⟨hfits, rfl⟩⟩

/-- A debt of five units at a multiplier of seven tenths is read back as one of six. -/
theorem unit_roundTrip_debt :
    let scaledToken : SetToken :=
      { deploy [] [] [] 0 with positionMultiplier := 700000000000000000 }
    scaledToken.convertRealToVirtualUnit (-5) = .ok (-8) ∧
      scaledToken.convertVirtualToRealUnit (-8) = .ok (-6) ∧
      (-5 : ℤ) - (scaledToken.positionMultiplier.toNat ⌈/⌉ preciseUnit : ℕ) ≤ -6 ∧
      (-6 : ℤ) ≤ -5 := by
  intro scaledToken
  have hconvert : scaledToken.convertRealToVirtualUnit (-5) = .ok (-8) := by decide +kernel
  have hback : scaledToken.convertVirtualToRealUnit (-8) = .ok (-6) := by decide +kernel
  have hpositive : 0 < scaledToken.positionMultiplier := by decide
  obtain ⟨hlow, hhigh, -⟩ := (unit_roundTrip hpositive).1 _ _ _ hconvert hback
  exact ⟨hconvert, hback, hlow, hhigh⟩

end SetProtocol.SetToken
