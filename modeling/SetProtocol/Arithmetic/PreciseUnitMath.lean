import SetProtocol.Arithmetic.SafeMath
import SetProtocol.Library.Rounding
import Mathlib.Algebra.Order.Floor.Div
import Mathlib.Tactic.Ring
import Mathlib.Tactic.Linarith

/-!
# Fixed-point arithmetic with 18 decimals

The functions of the `PreciseUnitMath` library on checked integers, and for
each of them the equation that says when it returns and how it rounds: `/` on
`ℕ` and on `ℤ` rounds down, `⌈/⌉` rounds up.
-/

namespace SetProtocol.PreciseUnitMath

open Transaction

/-- The number one in precise units. -/
def preciseUnit : ℕ := 10 ^ 18

/-- The signed constant of the same value. -/
def preciseUnitInt : ℤ := 10 ^ 18

theorem preciseUnit_pos : 0 < preciseUnit := by decide

theorem preciseUnitInt_pos : 0 < preciseUnitInt := by decide

@[simp]
theorem cast_preciseUnit : (preciseUnit : ℤ) = preciseUnitInt := by
  simp [preciseUnit, preciseUnitInt]

/-- Product, rounded down. -/
def preciseMul (a b : ℕ) : Outcome ℕ := do
  let product ← SafeMath.mul a b
  SafeMath.div product preciseUnit

/-- Signed product, rounded towards zero. -/
def preciseMulInt (a b : ℤ) : Outcome ℤ := do
  let product ← SignedSafeMath.mul a b
  SignedSafeMath.div product preciseUnitInt

/-- Product, rounded up. -/
def preciseMulCeil (a b : ℕ) : Outcome ℕ :=
  if a = 0 ∨ b = 0 then .ok 0
  else do
    let product ← SafeMath.mul a b
    let predecessor ← SafeMath.sub product 1
    let quotient ← SafeMath.div predecessor preciseUnit
    SafeMath.add quotient 1

/-- Quotient, rounded down. -/
def preciseDiv (a b : ℕ) : Outcome ℕ := do
  let scaled ← SafeMath.mul a preciseUnit
  SafeMath.div scaled b

/-- Signed quotient, rounded towards zero. -/
def preciseDivInt (a b : ℤ) : Outcome ℤ := do
  let scaled ← SignedSafeMath.mul a preciseUnitInt
  SignedSafeMath.div scaled b

/-- Quotient, rounded up. -/
def preciseDivCeil (a b : ℕ) : Outcome ℕ := do
  require (b ≠ 0) "Cant divide by 0"
  if 0 < a then do
    let scaled ← SafeMath.mul a preciseUnit
    let predecessor ← SafeMath.sub scaled 1
    let quotient ← SafeMath.div predecessor b
    SafeMath.add quotient 1
  else pure 0

/-- Quotient, rounded down: negative results move away from zero. -/
def divDown (a b : ℤ) : Outcome ℤ := do
  require (b ≠ 0) "Cant divide by 0"
  require (a ≠ minInt256 ∨ b ≠ -1) "Invalid input"
  let result ← SignedSafeMath.div a b
  -- `a ^ b < 0` compares the two sign bits
  if (xor (decide (a < 0)) (decide (b < 0))) = true ∧ a.tmod b ≠ 0 then pure (result - 1)
  else pure result

/-- Product of signed numbers, rounded towards the lesser number. -/
def conservativePreciseMul (a b : ℤ) : Outcome ℤ := do
  let product ← SignedSafeMath.mul a b
  divDown product preciseUnitInt

/-- Quotient of signed numbers, rounded towards the lesser number. -/
def conservativePreciseDiv (a b : ℤ) : Outcome ℤ := do
  let scaled ← SignedSafeMath.mul a preciseUnitInt
  divDown scaled b

/-- Signed quotient, rounded away from zero. -/
def preciseDivCeilInt (a b : ℤ) : Outcome ℤ := do
  require (b ≠ 0) "Cant divide by 0"
  let scaled ← SignedSafeMath.mul a preciseUnitInt
  let quotient ← SignedSafeMath.div scaled b
  if scaled.tmod b ≠ 0 then
    -- `a ^ b > 0` compares the two sign bits
    pure (if decide (scaled < 0) = decide (b < 0) then quotient + 1 else quotient - 1)
  else pure quotient

/-- Absolute value. -/
def abs (a : ℤ) : Outcome ℕ :=
  if 0 ≤ a then SafeCast.toUint256 a
  else do
    let negated ← SignedSafeMath.mul a (-1)
    SafeCast.toUint256 negated

/-- Negation. -/
def neg (a : ℤ) : Outcome ℤ := do
  require (minInt256 < a) "Inversion overflow"
  pure (-a)

/-- Whether `a` lies within `range` of `b`.  The lower bound is only computed
once the upper bound holds. -/
def approximatelyEquals (a b range : ℕ) : Outcome Bool := do
  let upper ← SafeMath.add b range
  if a ≤ upper then do
    let lower ← SafeMath.sub b range
    pure (decide (lower ≤ a))
  else pure false

/-! ## When the functions return, and how they round -/

@[simp]
theorem preciseMul_eq_ok {a b result : ℕ} :
    preciseMul a b = .ok result ↔
      a * b ≤ maxUint256 ∧ a * b / preciseUnit = result := by
  simp [preciseMul, bind_eq_ok, preciseUnit_pos]

@[simp]
theorem preciseDiv_eq_ok {a b result : ℕ} :
    preciseDiv a b = .ok result ↔
      a * preciseUnit ≤ maxUint256 ∧ 0 < b ∧ a * preciseUnit / b = result := by
  simp [preciseDiv, bind_eq_ok]

/-- Adding one to the rounded-down predecessor rounds up. -/
theorem pred_div_succ_eq_ceilDiv {value scale : ℕ} (hvalue : 0 < value)
    (hscale : 0 < scale) : (value - 1) / scale + 1 = value ⌈/⌉ scale := by
  rw [Nat.ceilDiv_eq_add_pred_div, ← Nat.add_div_right _ hscale]
  congr 1
  omega

theorem ceilDiv_le_self (value : ℕ) {scale : ℕ} (hscale : 0 < scale) :
    value ⌈/⌉ scale ≤ value := by
  rw [ceilDiv_le_iff_le_mul hscale]
  exact Nat.le_mul_of_pos_left value hscale

@[simp]
theorem preciseMulCeil_eq_ok {a b result : ℕ} :
    preciseMulCeil a b = .ok result ↔
      a * b ≤ maxUint256 ∧ a * b ⌈/⌉ preciseUnit = result := by
  unfold preciseMulCeil
  split
  · rename_i hzero
    have hproduct : a * b = 0 := by
      rcases hzero with rfl | rfl <;> simp
    simp [hproduct]
  · rename_i hzero
    have hproduct : 0 < a * b := by
      rw [not_or] at hzero
      exact Nat.mul_pos (Nat.pos_of_ne_zero hzero.1) (Nat.pos_of_ne_zero hzero.2)
    simp only [bind_eq_ok, SafeMath.mul_eq_ok, SafeMath.sub_eq_ok,
      SafeMath.div_eq_ok, SafeMath.add_eq_ok]
    have hround := pred_div_succ_eq_ceilDiv hproduct preciseUnit_pos
    have hsmall := ceilDiv_le_self (a * b) preciseUnit_pos
    constructor
    · rintro ⟨_, ⟨hfits, rfl⟩, _, ⟨_, rfl⟩, _, ⟨_, rfl⟩, _, rfl⟩
      exact ⟨hfits, hround.symm⟩
    · rintro ⟨hfits, rfl⟩
      exact ⟨_, ⟨hfits, rfl⟩, _, ⟨hproduct, rfl⟩, _, ⟨preciseUnit_pos, rfl⟩,
        by rw [hround]; omega, hround⟩

@[simp]
theorem preciseDivCeil_eq_ok {a b result : ℕ} :
    preciseDivCeil a b = .ok result ↔
      a * preciseUnit ≤ maxUint256 ∧ 0 < b ∧ a * preciseUnit ⌈/⌉ b = result := by
  unfold preciseDivCeil
  simp only [bind_eq_ok, require_eq_ok, exists_const]
  by_cases hzero : a = 0
  · subst hzero
    simp [pure_eq_ok, Nat.pos_iff_ne_zero]
  · have hscaled : 0 < a * preciseUnit :=
      Nat.mul_pos (Nat.pos_of_ne_zero hzero) preciseUnit_pos
    simp only [Nat.pos_of_ne_zero hzero, if_true, bind_eq_ok,
      SafeMath.mul_eq_ok, SafeMath.sub_eq_ok, SafeMath.div_eq_ok,
      SafeMath.add_eq_ok]
    constructor
    · rintro ⟨_, _, ⟨hfits, rfl⟩, _, ⟨_, rfl⟩, _, ⟨hpos, rfl⟩, _, rfl⟩
      exact ⟨hfits, hpos, (pred_div_succ_eq_ceilDiv hscaled hpos).symm⟩
    · rintro ⟨hfits, hpos, rfl⟩
      have hround := pred_div_succ_eq_ceilDiv hscaled hpos
      have hsmall := ceilDiv_le_self (a * preciseUnit) hpos
      exact ⟨by omega, _, ⟨hfits, rfl⟩, _, ⟨hscaled, rfl⟩, _, ⟨hpos, rfl⟩,
        by rw [hround]; omega, hround⟩

theorem preciseMulInt_eq_ok {a b result : ℤ} :
    preciseMulInt a b = .ok result ↔
      FitsInt256 (a * b) ∧ (a * b).tdiv preciseUnitInt = result := by
  simp [preciseMulInt, bind_eq_ok, SignedSafeMath.div_eq_ok_of_pos preciseUnitInt_pos]

theorem preciseDivInt_eq_ok {a b result : ℤ} (hb : 0 < b) :
    preciseDivInt a b = .ok result ↔
      FitsInt256 (a * preciseUnitInt) ∧ (a * preciseUnitInt).tdiv b = result := by
  simp [preciseDivInt, bind_eq_ok, SignedSafeMath.div_eq_ok_of_pos hb]

/-- A quotient of two numbers that are not negative is rounded down. -/
theorem preciseDivInt_eq_ok_of_nonneg {a b result : ℤ} (ha : 0 ≤ a) (hb : 0 ≤ b)
    (hcall : preciseDivInt a b = .ok result) :
    0 < b ∧ a * preciseUnitInt / b = result := by
  rcases hb.eq_or_lt with rfl | hpos
  · simp [preciseDivInt, bind_eq_ok, SignedSafeMath.div] at hcall
  · obtain ⟨-, rfl⟩ := (preciseDivInt_eq_ok hpos).mp hcall
    exact ⟨hpos, (Int.tdiv_eq_ediv_of_nonneg (mul_nonneg ha preciseUnitInt_pos.le)).symm⟩

/-- A quotient of two numbers that are not negative is rounded up. -/
theorem preciseDivCeilInt_eq_ok_of_nonneg {a b : ℕ} {result : ℤ}
    (hcall : preciseDivCeilInt a b = .ok result) :
    0 < b ∧ result = (a * preciseUnit ⌈/⌉ b : ℕ) := by
  simp only [preciseDivCeilInt, bind_eq_ok, require_eq_ok, SignedSafeMath.mul_eq_ok] at hcall
  obtain ⟨_, hb, _, ⟨-, rfl⟩, quotient, hquotient, hresult⟩ := hcall
  have hpos : 0 < b := Nat.pos_of_ne_zero (by exact_mod_cast hb)
  rw [SignedSafeMath.div_eq_ok_of_pos (Nat.cast_pos.mpr hpos)] at hquotient
  rw [← cast_preciseUnit, ← Nat.cast_mul] at hquotient hresult
  have hscaled : (0 : ℤ) ≤ (a * preciseUnit : ℕ) := Nat.cast_nonneg _
  have hdivisor : (0 : ℤ) ≤ b := Nat.cast_nonneg _
  rw [Int.tdiv_eq_ediv_of_nonneg hscaled, ← Int.natCast_ediv] at hquotient
  rw [Int.tmod_eq_emod_of_nonneg hscaled, ← Int.natCast_emod, ← hquotient] at hresult
  refine ⟨hpos, ?_⟩
  rw [Rounding.ceilDiv_eq_div_add _ hpos]
  simp only [not_lt.mpr hscaled, not_lt.mpr hdivisor, decide_false, if_true, ne_eq,
    Nat.cast_eq_zero] at hresult
  split at hresult
  · rename_i hrest
    rw [pure_eq_ok] at hresult
    rw [if_pos hrest, ← hresult]
    rfl
  · rename_i hrest
    rw [pure_eq_ok] at hresult
    rw [if_neg hrest, ← hresult, Nat.add_zero]

/-- For a positive divisor, correcting the truncated quotient by the sign test
gives the quotient rounded down. -/
theorem divDown_eq_ok {a b result : ℤ} (hb : 0 < b) :
    divDown a b = .ok result ↔ a / b = result := by
  have hzero : b ≠ 0 := by omega
  have hone : b ≠ -1 := by omega
  have hsign : ¬b < 0 := by omega
  simp only [divDown, bind_eq_ok, require_eq_ok, exists_const, hzero, hone,
    ne_eq, not_false_eq_true, or_true, true_and,
    SignedSafeMath.div_eq_ok_of_pos hb, exists_eq_left', hsign, decide_false,
    Bool.xor_false, decide_eq_true_eq, Int.tdiv_eq_ediv, Int.sign_eq_one_of_pos hb]
  by_cases hneg : a < 0
  · by_cases hdvd : b ∣ a
    · simp [hdvd, Int.tmod_eq_zero_of_dvd hdvd, pure_eq_ok]
    · have hmod : a.tmod b ≠ 0 := fun hmod => hdvd (Int.dvd_of_tmod_eq_zero hmod)
      simp [hneg, not_le.mpr hneg, hdvd, hmod, pure_eq_ok]
  · simp [hneg, not_lt.mp hneg, pure_eq_ok]

theorem conservativePreciseMul_eq_ok {a b result : ℤ} :
    conservativePreciseMul a b = .ok result ↔
      FitsInt256 (a * b) ∧ a * b / preciseUnitInt = result := by
  simp [conservativePreciseMul, bind_eq_ok, divDown_eq_ok preciseUnitInt_pos]

theorem conservativePreciseDiv_eq_ok {a b result : ℤ} (hb : 0 < b) :
    conservativePreciseDiv a b = .ok result ↔
      FitsInt256 (a * preciseUnitInt) ∧ a * preciseUnitInt / b = result := by
  simp [conservativePreciseDiv, bind_eq_ok, divDown_eq_ok hb]

theorem abs_eq_ok {a : ℤ} {result : ℕ} (hcall : abs a = .ok result) :
    a.natAbs = result := by
  rw [abs] at hcall
  split at hcall
  · rw [SafeCast.toUint256_eq_ok] at hcall
    omega
  · simp only [bind_eq_ok, SignedSafeMath.mul_eq_ok, SafeCast.toUint256_eq_ok] at hcall
    obtain ⟨_, ⟨-, rfl⟩, hcast⟩ := hcall
    omega

@[simp]
theorem neg_eq_ok {a result : ℤ} : neg a = .ok result ↔ minInt256 < a ∧ -a = result := by
  simp only [neg, bind_eq_ok, require_eq_ok, exists_const, pure_eq_ok]

/-- The comparison reverts when the lower bound is needed and would be negative. -/
theorem approximatelyEquals_eq_ok {a b range : ℕ} {result : Bool} :
    approximatelyEquals a b range = .ok result ↔
      b + range ≤ maxUint256 ∧ (b + range < a ∨ range ≤ b) ∧
        decide (a ≤ b + range ∧ b ≤ a + range) = result := by
  simp only [approximatelyEquals, bind_eq_ok, SafeMath.add_eq_ok]
  constructor
  · rintro ⟨_, ⟨hupper, rfl⟩, hresult⟩
    split at hresult
    · rename_i hbelow
      simp only [bind_eq_ok, SafeMath.sub_eq_ok, pure_eq_ok] at hresult
      obtain ⟨_, ⟨hlower, rfl⟩, rfl⟩ := hresult
      refine ⟨hupper, Or.inr hlower, ?_⟩
      rw [decide_eq_decide]
      omega
    · rename_i habove
      rw [pure_eq_ok] at hresult
      subst hresult
      exact ⟨hupper, Or.inl (not_le.mp habove), decide_eq_false (by omega)⟩
  · rintro ⟨hupper, hbounds, rfl⟩
    refine ⟨_, ⟨hupper, rfl⟩, ?_⟩
    split
    · rename_i hbelow
      have hlower : range ≤ b := hbounds.resolve_left (not_lt.mpr hbelow)
      simp only [bind_eq_ok, SafeMath.sub_eq_ok, pure_eq_ok]
      refine ⟨_, ⟨hlower, rfl⟩, ?_⟩
      rw [decide_eq_decide]
      omega
    · rw [pure_eq_ok]
      exact (decide_eq_false (by omega)).symm

/-! ## How the functions revert -/

theorem arithmetic_preciseMul (a b : ℕ) : Arithmetic (preciseMul a b) :=
  (SafeMath.arithmetic_mul a b).bind fun product _ =>
    SafeMath.arithmetic_div product preciseUnit

theorem arithmetic_preciseMulCeil (a b : ℕ) : Arithmetic (preciseMulCeil a b) := by
  refine RevertsOnly.ite (fun _ => revertsOnly_pure 0) fun _ => ?_
  refine (SafeMath.arithmetic_mul a b).bind fun product _ => ?_
  refine (SafeMath.arithmetic_sub product 1).bind fun predecessor _ => ?_
  refine (SafeMath.arithmetic_div predecessor preciseUnit).bind fun quotient _ => ?_
  exact SafeMath.arithmetic_add quotient 1

theorem arithmetic_divDown (a b : ℤ) : Arithmetic (divDown a b) := by
  refine (revertsOnly_require fun _ => by decide).bind fun _ _ => ?_
  refine (revertsOnly_require fun _ => by decide).bind fun _ _ => ?_
  refine (SignedSafeMath.arithmetic_div a b).bind fun result _ => ?_
  exact RevertsOnly.ite (fun _ => revertsOnly_pure _) fun _ => revertsOnly_pure _

theorem arithmetic_conservativePreciseMul (a b : ℤ) :
    Arithmetic (conservativePreciseMul a b) :=
  (SignedSafeMath.arithmetic_mul a b).bind fun product _ =>
    arithmetic_divDown product preciseUnitInt

theorem arithmetic_conservativePreciseDiv (a b : ℤ) :
    Arithmetic (conservativePreciseDiv a b) :=
  (SignedSafeMath.arithmetic_mul a preciseUnitInt).bind fun scaled _ =>
    arithmetic_divDown scaled b

end SetProtocol.PreciseUnitMath
