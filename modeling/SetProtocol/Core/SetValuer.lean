import SetProtocol.Core.Bookkeeping
import Mathlib.Data.Rat.Cast.Order
import Mathlib.Tactic.FieldSimp
import Mathlib.Tactic.GCongr

/-!
# Valuing a SetToken

The valuer sums up what the units of all components are worth at the prices of an
oracle.  The oracle and the decimals of the tokens are parameters.
-/

namespace SetProtocol

open Transaction PreciseUnitMath

/-- The price oracle, whose prices have 18 decimals, and what tokens say of their
own decimals. -/
structure Oracle where
  masterQuoteAsset : Address
  getPrice (assetOne assetTwo : Address) : Outcome ℕ
  decimals (token : Address) : ℕ

/-- `10 ** decimals`, which is not checked. -/
def Oracle.baseUnits (oracle : Oracle) (token : Address) : ℕ :=
  10 ^ oracle.decimals token % 2 ^ 256

namespace SetValuer

/-- Value of one component of a share in the master quote asset. -/
def componentValuation (oracle : Oracle) (setToken : SetToken) (component : Address) :
    Outcome ℤ := do
  let componentPrice ← oracle.getPrice component oracle.masterQuoteAsset
  let aggregateUnits ← setToken.getTotalComponentRealUnits component
  let baseUnits ← SafeCast.toInt256 (oracle.baseUnits component)
  let normalizedUnits ← preciseDivInt aggregateUnits baseUnits
  let price ← SafeCast.toInt256 componentPrice
  preciseMulInt normalizedUnits price

def quoteValuation (oracle : Oracle) (quoteAsset : Address) (valuation : ℤ) :
    Outcome ℤ :=
  if oracle.masterQuoteAsset ≠ quoteAsset then do
    let quoteToMaster ← oracle.getPrice quoteAsset oracle.masterQuoteAsset
    let price ← SafeCast.toInt256 quoteToMaster
    preciseDivInt valuation price
  else pure valuation

/-- Value of a share in terms of a quote asset. -/
def calculateSetTokenValuation (oracle : Oracle) (setToken : SetToken)
    (quoteAsset : Address) : Outcome ℕ := do
  let valuation ← setToken.components.foldlM (fun valuation component => do
    let componentValue ← componentValuation oracle setToken component
    SignedSafeMath.add componentValue valuation) 0
  let quoted ← quoteValuation oracle quoteAsset valuation
  SafeCast.toUint256 quoted

def calculateComponentValuation (oracle : Oracle) (setToken : SetToken)
    (component quoteAsset : Address) : Outcome ℕ := do
  require (setToken.isComponent component = true) "Component not in SetToken"
  let valuation ← componentValuation oracle setToken component
  let quoted ← quoteValuation oracle quoteAsset valuation
  SafeCast.toUint256 quoted

/-! ## How far a valuation rounds -/

/-- Price of a component in the master quote asset; zero if there is none. -/
def masterPrice (oracle : Oracle) (token : Address) : ℕ :=
  match oracle.getPrice token oracle.masterQuoteAsset with
  | .ok price => price
  | .error _ => 0

/-- Exact worth of one unit of a component, in precise units of the master quote
asset. -/
def unitWorth (oracle : Oracle) (component : Address) : ℚ :=
  masterPrice oracle component / oracle.baseUnits component

/-- The factor from the master quote asset to another one. -/
def quoteRate (oracle : Oracle) (quoteAsset : Address) : ℚ :=
  if oracle.masterQuoteAsset ≠ quoteAsset then
    preciseUnit / masterPrice oracle quoteAsset
  else 1

/-- A unit before it is rounded: what the virtual unit stands for. -/
def exactUnit (setToken : SetToken) (component : Address) : ℚ :=
  setToken.defaultPositionVirtualUnit component * setToken.positionMultiplier / preciseUnit

/-- The valuation of a share of which nothing is rounded. -/
def exactValuation (oracle : Oracle) (setToken : SetToken) (quoteAsset : Address) : ℚ :=
  (setToken.components.map fun component =>
    exactUnit setToken component * unitWorth oracle component).sum *
      quoteRate oracle quoteAsset

section Rounding

variable {oracle : Oracle} {setToken : SetToken} {component quoteAsset : Address}

theorem unitWorth_nonneg (oracle : Oracle) (component : Address) :
    0 ≤ unitWorth oracle component := by
  unfold unitWorth
  positivity

theorem quoteRate_nonneg (oracle : Oracle) (quoteAsset : Address) :
    0 ≤ quoteRate oracle quoteAsset := by
  unfold quoteRate
  split <;> positivity

theorem exactUnit_nonneg (hkept : Bookkept setToken) (component : Address) :
    0 ≤ exactUnit setToken component := by
  have hunit : (0 : ℚ) ≤ setToken.defaultPositionVirtualUnit component := by
    exact_mod_cast (hkept.positions component).default_nonneg
  have hmultiplier : (0 : ℚ) < setToken.positionMultiplier := by
    exact_mod_cast hkept.multiplier_pos
  unfold exactUnit
  positivity

/-- A token that is no component has no unit. -/
theorem exactUnit_of_not_mem (hkept : Bookkept setToken)
    (habsent : component ∉ setToken.components) : exactUnit setToken component = 0 := by
  have hnonneg := (hkept.positions component).default_nonneg
  have hpresent : ¬0 < setToken.defaultPositionVirtualUnit component := fun hpositive =>
    habsent ((hkept.components.mem_iff component).mpr (Or.inl hpositive))
  have hzero : setToken.defaultPositionVirtualUnit component = 0 :=
    le_antisymm (not_lt.mp hpresent) hnonneg
  rw [exactUnit, hzero, Int.cast_zero, zero_mul, zero_div]

/-- A quotient of integers that is rounded down. -/
theorem cast_ediv_le {a b : ℤ} (hb : 0 < b) : ((a / b : ℤ) : ℚ) ≤ a / b := by
  rw [le_div_iff₀ (by exact_mod_cast hb)]
  exact_mod_cast Int.ediv_mul_le a hb.ne'

theorem realUnit_nonneg (hkept : Bookkept setToken) (component : Address) :
    0 ≤ realUnit setToken.positionMultiplier
      (setToken.defaultPositionVirtualUnit component) := by
  rw [← Int.sign_nonneg_iff]
  refine le_of_le_of_eq ?_ (hkept.positions component).default_sign.symm
  exact Int.sign_nonneg_iff.mpr (hkept.positions component).default_nonneg

theorem defaultRealUnit_le_exactUnit (hkept : Bookkept setToken) (component : Address) :
    (setToken.defaultRealUnit component : ℚ) ≤ exactUnit setToken component := by
  have hcast : ((setToken.defaultRealUnit component : ℕ) : ℚ) =
      ((realUnit setToken.positionMultiplier
        (setToken.defaultPositionVirtualUnit component) : ℤ) : ℚ) := by
    exact_mod_cast congrArg (Int.cast : ℤ → ℚ)
      (Int.toNat_of_nonneg (realUnit_nonneg hkept component))
  have hround := cast_ediv_le (a := setToken.defaultPositionVirtualUnit component *
    setToken.positionMultiplier) preciseUnitInt_pos
  rw [← cast_preciseUnit] at hround
  push_cast at hround
  rw [hcast, exactUnit, realUnit, ← cast_preciseUnit]
  exact hround

theorem componentValuation_le {value : ℤ}
    (hnone : setToken.getExternalPositionModules component = [])
    (hunit : 0 ≤ realUnit setToken.positionMultiplier
      (setToken.defaultPositionVirtualUnit component))
    (hcall : componentValuation oracle setToken component = .ok value) :
    0 ≤ value ∧
      (value : ℚ) ≤ setToken.defaultRealUnit component * unitWorth oracle component := by
  simp only [componentValuation, SetToken.getTotalComponentRealUnits, hnone,
    List.foldlM_nil, bind_eq_ok, pure_eq_ok, SetToken.getDefaultPositionRealUnit,
    SetToken.convertVirtualToRealUnit_eq_ok, SafeCast.toInt256_eq_ok,
    preciseMulInt_eq_ok] at hcall
  obtain ⟨price, hprice, _, ⟨_, ⟨-, rfl⟩, rfl⟩, _, ⟨-, rfl⟩, normalized, hnormalized, _,
    ⟨-, rfl⟩, -, rfl⟩ := hcall
  obtain ⟨hbase, rfl⟩ :=
    preciseDivInt_eq_ok_of_nonneg hunit (Int.natCast_nonneg _) hnormalized
  have hscaled : 0 ≤ realUnit setToken.positionMultiplier
      (setToken.defaultPositionVirtualUnit component) * preciseUnitInt /
        (oracle.baseUnits component : ℤ) :=
    Int.ediv_nonneg (mul_nonneg hunit preciseUnitInt_pos.le) hbase.le
  rw [Int.tdiv_eq_ediv_of_nonneg (mul_nonneg hscaled (Int.natCast_nonneg _))]
  refine ⟨Int.ediv_nonneg (mul_nonneg hscaled (Int.natCast_nonneg _))
    preciseUnitInt_pos.le, ?_⟩
  have hcast : ((setToken.defaultRealUnit component : ℕ) : ℚ) =
      ((realUnit setToken.positionMultiplier
        (setToken.defaultPositionVirtualUnit component) : ℤ) : ℚ) := by
    exact_mod_cast congrArg (Int.cast : ℤ → ℚ) (Int.toNat_of_nonneg hunit)
  rw [hcast, unitWorth, masterPrice, hprice]
  generalize realUnit setToken.positionMultiplier
    (setToken.defaultPositionVirtualUnit component) = unit at *
  have hbaseQ : (0 : ℚ) < oracle.baseUnits component := by exact_mod_cast hbase
  have hscaleQ : (0 : ℚ) < preciseUnitInt := by exact_mod_cast preciseUnitInt_pos
  have hfirst := cast_ediv_le (a := unit * preciseUnitInt) hbase
  calc ((unit * preciseUnitInt / (oracle.baseUnits component : ℤ) * (price : ℤ) /
          preciseUnitInt : ℤ) : ℚ)
      ≤ ((unit * preciseUnitInt / (oracle.baseUnits component : ℤ) * (price : ℤ) : ℤ) : ℚ) /
          preciseUnitInt := cast_ediv_le preciseUnitInt_pos
    _ ≤ (unit * preciseUnitInt / oracle.baseUnits component * price) / preciseUnitInt := by
        push_cast at hfirst ⊢
        gcongr
    _ = unit * (price / oracle.baseUnits component) := by
        field_simp

/-- The loop adds at most the exact worth of each component. -/
theorem foldlM_valuation_le {components : List Address} {start value : ℤ}
    (hnone : ∀ component ∈ components,
      setToken.getExternalPositionModules component = [])
    (hunits : ∀ component ∈ components, 0 ≤ realUnit setToken.positionMultiplier
      (setToken.defaultPositionVirtualUnit component))
    (hstart : 0 ≤ start)
    (hcall : components.foldlM (fun valuation component => do
      let componentValue ← componentValuation oracle setToken component
      SignedSafeMath.add componentValue valuation) start = .ok value) :
    0 ≤ value ∧ (value : ℚ) ≤ start + (components.map fun component =>
      setToken.defaultRealUnit component * unitWorth oracle component).sum := by
  induction components generalizing start with
  | nil =>
      rw [List.foldlM_nil, pure_eq_ok] at hcall
      subst hcall
      exact ⟨hstart, by simp⟩
  | cons component components ih =>
      simp only [List.foldlM_cons, bind_eq_ok, SignedSafeMath.add_eq_ok] at hcall
      obtain ⟨_, ⟨componentValue, hvalue, -, rfl⟩, hrest⟩ := hcall
      obtain ⟨hnonneg, hworth⟩ := componentValuation_le
        (hnone component List.mem_cons_self) (hunits component List.mem_cons_self) hvalue
      obtain ⟨hresult, hle⟩ := ih
        (fun other hother => hnone other (List.mem_cons_of_mem component hother))
        (fun other hother => hunits other (List.mem_cons_of_mem component hother))
        (add_nonneg hnonneg hstart) hrest
      refine ⟨hresult, ?_⟩
      rw [List.map_cons, List.sum_cons]
      push_cast at hle
      linarith

/-- A valuation is at most the worth of the real units; where it converts, the quote
asset has a price. -/
theorem calculateSetTokenValuation_le {value : ℕ}
    (hnone : ∀ component ∈ setToken.components,
      setToken.getExternalPositionModules component = [])
    (hunits : ∀ component ∈ setToken.components, 0 ≤ realUnit setToken.positionMultiplier
      (setToken.defaultPositionVirtualUnit component))
    (hcall : calculateSetTokenValuation oracle setToken quoteAsset = .ok value) :
    (value : ℚ) ≤ (setToken.components.map fun component =>
        setToken.defaultRealUnit component * unitWorth oracle component).sum *
          quoteRate oracle quoteAsset ∧
      (oracle.masterQuoteAsset ≠ quoteAsset → 0 < masterPrice oracle quoteAsset) := by
  simp only [calculateSetTokenValuation, bind_eq_ok, SafeCast.toUint256_eq_ok] at hcall
  obtain ⟨valuation, hloop, quoted, hquoted, rfl⟩ := hcall
  obtain ⟨hnonneg, hle⟩ := foldlM_valuation_le hnone hunits le_rfl hloop
  rw [Int.cast_zero, zero_add] at hle
  unfold quoteValuation at hquoted
  split at hquoted
  · rename_i hother
    simp only [bind_eq_ok, SafeCast.toInt256_eq_ok] at hquoted
    obtain ⟨price, hprice, _, ⟨-, rfl⟩, hdivided⟩ := hquoted
    obtain ⟨hpositive, hresult⟩ :=
      preciseDivInt_eq_ok_of_nonneg hnonneg (Int.natCast_nonneg _) hdivided
    have hmaster : masterPrice oracle quoteAsset = price := by
      rw [masterPrice, hprice]
    have hpriceQ : (0 : ℚ) < price := by exact_mod_cast hpositive
    refine ⟨?_, fun _ => by rw [hmaster]; exact_mod_cast hpositive⟩
    rw [quoteRate, if_pos hother, hmaster]
    calc ((value : ℕ) : ℚ) = ((valuation * preciseUnitInt / (price : ℤ) : ℤ) : ℚ) := by
          rw [hresult]
          rfl
      _ ≤ ((valuation * preciseUnitInt : ℤ) : ℚ) / ((price : ℤ) : ℚ) :=
          cast_ediv_le hpositive
      _ = valuation * (preciseUnit / price) := by
          rw [← cast_preciseUnit]
          push_cast
          ring
      _ ≤ _ := mul_le_mul_of_nonneg_right hle (by positivity)
  · rename_i hsame
    rw [pure_eq_ok] at hquoted
    refine ⟨?_, fun hother => absurd hother hsame⟩
    rw [quoteRate, if_neg hsame, mul_one]
    refine le_trans (le_of_eq ?_) hle
    rw [hquoted]
    rfl

end Rounding

end SetValuer

end SetProtocol
