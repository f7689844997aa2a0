import SetProtocol.Core.Bookkeeping

/-!
# Reading and comparing targets

The rebalancing modules read the default unit of a component, scale its target by two
multipliers and compare both up to one unit.  Each of these steps has checked operations in
it, and this file says when they answer.
-/

namespace SetProtocol.RebalanceTargets

open Transaction PreciseUnitMath

variable {setToken : SetToken} {component : Address} {unit target : ℕ} {unmet : Bool}

/-- What is read and cast is the default real unit. -/
theorem read_eq_ok :
    (do
      let realUnit ← setToken.getDefaultPositionRealUnit component
      SafeCast.toUint256 realUnit) = .ok unit ↔
      setToken.getDefaultPositionRealUnit component =
          .ok (setToken.defaultRealUnit component : ℤ) ∧
        setToken.defaultRealUnit component = unit := by
  simp only [bind_eq_ok]
  constructor
  · rintro ⟨realUnit, hunit, hcast⟩
    rw [SetToken.defaultRealUnit_of_ok hunit hcast]
    exact ⟨SafeCast.toUint256_eq_ok.mp hcast ▸ hunit, rfl⟩
  · rintro ⟨hunit, rfl⟩
    exact ⟨_, hunit, SafeCast.toUint256_eq_ok.mpr rfl⟩

theorem defaultRealUnit_cast (hkept : Bookkept setToken) :
    (setToken.defaultRealUnit component : ℤ) =
      realUnit setToken.positionMultiplier (setToken.defaultPositionVirtualUnit component) :=
  Int.toNat_of_nonneg (Int.ediv_nonneg
    (mul_nonneg (hkept.positions component).default_nonneg hkept.multiplier_pos.le)
    preciseUnitInt_pos.le)

theorem readable_iff (hkept : Bookkept setToken) :
    setToken.getDefaultPositionRealUnit component =
        .ok (setToken.defaultRealUnit component : ℤ) ↔
      FitsInt256 (setToken.defaultPositionVirtualUnit component *
        setToken.positionMultiplier) := by
  rw [SetToken.getDefaultPositionRealUnit, SetToken.convertVirtualToRealUnit_eq_ok,
    defaultRealUnit_cast hkept]
  exact and_iff_left rfl

/-- A real unit leaves room for one more. -/
theorem defaultRealUnit_lt (hkept : Bookkept setToken)
    (hfits : FitsInt256 (setToken.defaultPositionVirtualUnit component *
      setToken.positionMultiplier)) : setToken.defaultRealUnit component < maxUint256 := by
  have hproduct : 0 ≤ setToken.defaultPositionVirtualUnit component *
      setToken.positionMultiplier :=
    mul_nonneg (hkept.positions component).default_nonneg hkept.multiplier_pos.le
  have hle : realUnit setToken.positionMultiplier
      (setToken.defaultPositionVirtualUnit component) ≤ maxInt256 :=
    (Int.ediv_le_self _ hproduct).trans hfits.2
  have hwide : maxInt256 < (maxUint256 : ℤ) := by decide
  rw [← defaultRealUnit_cast hkept] at hle
  exact_mod_cast hle.trans_lt hwide

/-- A target under the current multiplier. -/
theorem normalize_eq_ok {startMultiplier : ℕ} (hmultiplier : 0 < setToken.positionMultiplier) :
    (do
      let multiplier ← SafeCast.toUint256 setToken.positionMultiplier
      let scaled ← SafeMath.mul target multiplier
      SafeMath.div scaled startMultiplier) = .ok unit ↔
      target * setToken.positionMultiplier.toNat ≤ maxUint256 ∧ 0 < startMultiplier ∧
        target * setToken.positionMultiplier.toNat / startMultiplier = unit := by
  have hcast : ∀ multiplier : ℕ, setToken.positionMultiplier = (multiplier : ℤ) ↔
      multiplier = setToken.positionMultiplier.toNat := by
    intro multiplier
    omega
  simp only [bind_eq_ok, SafeCast.toUint256_eq_ok, hcast, SafeMath.mul_eq_ok,
    SafeMath.div_eq_ok, exists_eq_left, and_assoc]
  constructor
  · rintro ⟨scaled, hfits, rfl, hpos, hunit⟩
    exact ⟨hfits, hpos, hunit⟩
  · rintro ⟨hfits, hpos, hunit⟩
    exact ⟨_, hfits, rfl, hpos, hunit⟩

theorem unit_of_normalize {startMultiplier : ℕ}
    (hunit : (do
      let multiplier ← SafeCast.toUint256 setToken.positionMultiplier
      let scaled ← SafeMath.mul target multiplier
      SafeMath.div scaled startMultiplier) = .ok unit) :
    target * setToken.positionMultiplier.toNat / startMultiplier = unit := by
  simp only [bind_eq_ok, SafeCast.toUint256_eq_ok, SafeMath.mul_eq_ok,
    SafeMath.div_eq_ok] at hunit
  obtain ⟨multiplier, hmultiplier, _, ⟨-, rfl⟩, -, rfl⟩ := hunit
  rw [hmultiplier, Int.toNat_natCast]

/-- Up to one unit; a target of zero is met exactly. -/
def Met (target unit : ℕ) : Prop :=
  target ≤ unit + 1 ∧ unit ≤ target + 1 ∧ (target = 0 → unit = 0)

/-- The comparison subtracts one from the unit, unless the target lies far above it. -/
theorem compare_eq_ok (hroom : unit < maxUint256) :
    (if 0 < target then do
        let close ← approximatelyEquals target unit 1
        pure (!close)
      else pure (decide (target ≠ unit)) : Outcome Bool) = .ok unmet ↔
      ¬(target = 1 ∧ unit = 0) ∧
        ((unmet = false ∧ Met target unit) ∨ (unmet = true ∧ ¬Met target unit)) := by
  unfold Met
  -- only a positive target is compared up to one
  split
  · simp only [bind_eq_ok, approximatelyEquals_eq_ok, pure_eq_ok]
    constructor
    · rintro ⟨close, ⟨-, hbounds, hclose⟩, rfl⟩
      cases close <;> simp at hclose ⊢ <;> omega
    · rintro ⟨hcomparable, hunmet⟩
      refine ⟨!unmet, ⟨hroom, by omega, ?_⟩, Bool.not_not unmet⟩
      rcases hunmet with ⟨rfl, hmet⟩ | ⟨rfl, hmet⟩ <;> simp <;> omega
  · rw [pure_eq_ok]
    cases unmet <;> simp <;> omega

end SetProtocol.RebalanceTargets
