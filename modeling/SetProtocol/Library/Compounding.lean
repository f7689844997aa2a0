import Mathlib.Algebra.Order.Floor.Semifield
import Mathlib.Analysis.Complex.Exponential
import Mathlib.Data.Nat.Cast.Order.Field

/-!
# Compounding

Continuous compounding of a nominal gain `x`, counted in units of a scale, by the first
terms of the exponential series, each rounded down.  The result lies between the simple
gain and the exponential, and close below the exponential where `x` is at most the scale.
-/

namespace SetProtocol.Compounding

variable {scale x y : ℕ}

/-- The first three terms of `scale * (exp (x / scale) - 1)`, each rounded down. -/
def taylorDown (scale x : ℕ) : ℕ :=
  x + x * x / (2 * scale) + x * x / (2 * scale) * x / (3 * scale)

theorem le_taylorDown (scale x : ℕ) : x ≤ taylorDown scale x := by
  rw [taylorDown, Nat.add_assoc]
  exact Nat.le_add_right _ _

theorem div_lt_cast_div_add_one (m n : ℕ) : (m : ℝ) / n < ((m / n : ℕ) : ℝ) + 1 := by
  rw [← Nat.floor_div_eq_div (K := ℝ)]
  exact Nat.lt_floor_add_one _

/-! ## The terms -/

section

variable (hscale : 0 < scale)
include hscale

theorem square_div (x : ℕ) :
    ((x * x : ℕ) : ℝ) / ((2 * scale : ℕ) : ℝ) = scale * ((x / scale : ℝ) ^ 2 / 2) := by
  have hpositive : (0 : ℝ) < scale := by exact_mod_cast hscale
  push_cast
  field_simp

theorem second_le (x : ℕ) :
    ((x * x / (2 * scale) : ℕ) : ℝ) ≤ scale * ((x / scale : ℝ) ^ 2 / 2) :=
  Nat.cast_div_le.trans_eq (square_div hscale x)

theorem lt_second_add_one (x : ℕ) :
    scale * ((x / scale : ℝ) ^ 2 / 2) < ((x * x / (2 * scale) : ℕ) : ℝ) + 1 :=
  (square_div hscale x).symm.trans_lt (div_lt_cast_div_add_one _ _)

theorem times_third (second : ℝ) (x : ℕ) :
    second * x / (3 * scale) = second * ((x / scale : ℝ) / 3) := by
  have hpositive : (0 : ℝ) < scale := by exact_mod_cast hscale
  field_simp

theorem third_le (x : ℕ) :
    ((x * x / (2 * scale) * x / (3 * scale) : ℕ) : ℝ) ≤ scale * ((x / scale : ℝ) ^ 3 / 6) := by
  have hratio : (0 : ℝ) ≤ (x / scale : ℝ) / 3 := by positivity
  calc ((x * x / (2 * scale) * x / (3 * scale) : ℕ) : ℝ)
      ≤ ((x * x / (2 * scale) * x : ℕ) : ℝ) / ((3 * scale : ℕ) : ℝ) := Nat.cast_div_le
    _ = ((x * x / (2 * scale) : ℕ) : ℝ) * ((x / scale : ℝ) / 3) := by
        push_cast
        exact times_third hscale _ x
    _ ≤ scale * ((x / scale : ℝ) ^ 2 / 2) * ((x / scale : ℝ) / 3) :=
        mul_le_mul_of_nonneg_right (second_le hscale x) hratio
    _ = scale * ((x / scale : ℝ) ^ 3 / 6) := by ring

theorem lt_third_add (hsmall : x ≤ scale) :
    scale * ((x / scale : ℝ) ^ 3 / 6) <
      ((x * x / (2 * scale) * x / (3 * scale) : ℕ) : ℝ) + 4 / 3 := by
  have hpositive : (0 : ℝ) < scale := by exact_mod_cast hscale
  have hratio : (0 : ℝ) ≤ (x / scale : ℝ) / 3 := by positivity
  have hsmallRatio : (x / scale : ℝ) ≤ 1 := by
    rw [div_le_one hpositive]
    exact_mod_cast hsmall
  have hfloor := div_lt_cast_div_add_one (x * x / (2 * scale) * x) (3 * scale)
  have hexact : ((x * x / (2 * scale) * x : ℕ) : ℝ) / ((3 * scale : ℕ) : ℝ) =
      ((x * x / (2 * scale) : ℕ) : ℝ) * ((x / scale : ℝ) / 3) := by
    push_cast
    exact times_third hscale _ x
  have hsecond := mul_le_mul_of_nonneg_right (lt_second_add_one hscale x).le hratio
  calc scale * ((x / scale : ℝ) ^ 3 / 6)
      = scale * ((x / scale : ℝ) ^ 2 / 2) * ((x / scale : ℝ) / 3) := by ring
    _ ≤ ((x * x / (2 * scale) : ℕ) : ℝ) * ((x / scale : ℝ) / 3) + (x / scale : ℝ) / 3 := by
        linarith
    _ < ((x * x / (2 * scale) * x / (3 * scale) : ℕ) : ℝ) + 4 / 3 := by linarith

/-! ## The exponential -/

/-- Never more than continuous compounding. -/
theorem taylorDown_le_exp (x : ℕ) :
    (taylorDown scale x : ℝ) ≤ scale * (Real.exp (x / scale) - 1) := by
  have hpositive : (0 : ℝ) < scale := by exact_mod_cast hscale
  have hexp := Real.sum_le_exp_of_nonneg (x := (x / scale : ℝ)) (by positivity) 4
  simp only [Finset.sum_range_succ, Finset.sum_range_zero, Nat.factorial] at hexp
  have hscaled := mul_le_mul_of_nonneg_left hexp hpositive.le
  have hfirst : scale * (x / scale : ℝ) = x := mul_div_cancel₀ _ hpositive.ne'
  have hsecond := second_le hscale x
  have hthird := third_le hscale x
  rw [taylorDown]
  push_cast at hscaled hsecond hthird ⊢
  linarith

/-- Up to a doubling, short of it by the fourth term and the rounding. -/
theorem exp_lt_taylorDown (hsmall : x ≤ scale) :
    scale * (Real.exp (x / scale) - 1) <
      taylorDown scale x + scale * ((x / scale : ℝ) ^ 4 * (5 / 96)) + 7 / 3 := by
  have hpositive : (0 : ℝ) < scale := by exact_mod_cast hscale
  have hsmallRatio : (x / scale : ℝ) ≤ 1 := by
    rw [div_le_one hpositive]
    exact_mod_cast hsmall
  have hexp := Real.exp_bound' (x := (x / scale : ℝ)) (by positivity) hsmallRatio
    (n := 4) (by decide)
  simp only [Finset.sum_range_succ, Finset.sum_range_zero, Nat.factorial] at hexp
  have hscaled := mul_le_mul_of_nonneg_left hexp hpositive.le
  have hfirst : scale * (x / scale : ℝ) = x := mul_div_cancel₀ _ hpositive.ne'
  have hsecond := lt_second_add_one hscale x
  have hthird := lt_third_add hscale hsmall
  rw [taylorDown]
  push_cast at hscaled hsecond hthird ⊢
  linarith

/-! ## An amount that grows -/

omit hscale in
theorem le_compounded (amount x : ℕ) :
    amount + amount * x / scale ≤ amount + amount * taylorDown scale x / scale := by
  apply Nat.add_le_add_left
  exact Nat.div_le_div_right (Nat.mul_le_mul_left amount (le_taylorDown scale x))

theorem compounded_le_exp (amount x : ℕ) :
    ((amount + amount * taylorDown scale x / scale : ℕ) : ℝ) ≤
      amount * Real.exp (x / scale) := by
  have hpositive : (0 : ℝ) < scale := by exact_mod_cast hscale
  have hgrown : (amount : ℝ) * taylorDown scale x ≤
      amount * (scale * (Real.exp (x / scale) - 1)) :=
    mul_le_mul_of_nonneg_left (taylorDown_le_exp hscale x) (Nat.cast_nonneg amount)
  calc ((amount + amount * taylorDown scale x / scale : ℕ) : ℝ)
      = amount + ((amount * taylorDown scale x / scale : ℕ) : ℝ) := Nat.cast_add _ _
    _ ≤ amount + (amount * taylorDown scale x : ℕ) / scale :=
        add_le_add_right Nat.cast_div_le _
    _ ≤ amount + amount * (scale * (Real.exp (x / scale) - 1)) / scale := by
        push_cast
        gcongr
    _ = amount * Real.exp (x / scale) := by
        field_simp
        ring

theorem exp_lt_compounded (hsmall : x ≤ scale) (amount : ℕ) :
    amount * Real.exp (x / scale) <
      ((amount + amount * taylorDown scale x / scale : ℕ) : ℝ) + 1 +
        amount * ((x / scale : ℝ) ^ 4 * (5 / 96) + 7 / 3 / scale) := by
  have hpositive : (0 : ℝ) < scale := by exact_mod_cast hscale
  have hgrown : (amount : ℝ) * (scale * (Real.exp (x / scale) - 1)) ≤
      amount * (taylorDown scale x + scale * ((x / scale : ℝ) ^ 4 * (5 / 96)) + 7 / 3) :=
    mul_le_mul_of_nonneg_left (exp_lt_taylorDown hscale hsmall).le (Nat.cast_nonneg amount)
  have hfloor := div_lt_cast_div_add_one (amount * taylorDown scale x) scale
  calc amount * Real.exp (x / scale)
      = amount + amount * (scale * (Real.exp (x / scale) - 1)) / scale := by
        field_simp
        ring
    _ ≤ amount + amount *
          (taylorDown scale x + scale * ((x / scale : ℝ) ^ 4 * (5 / 96)) + 7 / 3) / scale := by
        gcongr
    _ = amount + (amount * taylorDown scale x : ℕ) / scale +
          amount * ((x / scale : ℝ) ^ 4 * (5 / 96) + 7 / 3 / scale) := by
        push_cast
        field_simp
        ring
    _ < ((amount + amount * taylorDown scale x / scale : ℕ) : ℝ) + 1 +
          amount * ((x / scale : ℝ) ^ 4 * (5 / 96) + 7 / 3 / scale) := by
        rw [Nat.cast_add amount]
        linarith

end

end SetProtocol.Compounding
