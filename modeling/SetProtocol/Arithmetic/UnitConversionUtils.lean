import SetProtocol.Arithmetic.PreciseUnitMath

/-!
# Precise units and token decimals

The functions of `UnitConversionUtils`: a quantity with 18 decimals is divided by, and a
token quantity multiplied with, the power of ten between the two.
-/

namespace SetProtocol.UnitConversionUtils

open Transaction

/-- `10**(18 - uint(_decimals))`, computed modulo `2 ^ 256`.  For more than 18 decimals
the exponent wraps around, and the power is a multiple of `2 ^ 256`. -/
def decimalScale (decimals : ℕ) : ℕ :=
  if decimals ≤ 18 then 10 ^ (18 - decimals) else 0

def fromPreciseUnitToDecimals (amount decimals : ℕ) : Outcome ℕ :=
  SafeMath.div amount (decimalScale decimals)

def fromPreciseUnitToDecimalsInt (amount : ℤ) (decimals : ℕ) : Outcome ℤ :=
  SignedSafeMath.div amount (decimalScale decimals)

def toPreciseUnitsFromDecimals (amount decimals : ℕ) : Outcome ℕ :=
  SafeMath.mul amount (decimalScale decimals)

def toPreciseUnitsFromDecimalsInt (amount : ℤ) (decimals : ℕ) : Outcome ℤ :=
  SignedSafeMath.mul amount (decimalScale decimals)

theorem fromPreciseUnitToDecimals_eq_ok {amount decimals result : ℕ} :
    fromPreciseUnitToDecimals amount decimals = .ok result ↔
      0 < decimalScale decimals ∧ amount / decimalScale decimals = result :=
  SafeMath.div_eq_ok

theorem toPreciseUnitsFromDecimals_eq_ok {amount decimals result : ℕ} :
    toPreciseUnitsFromDecimals amount decimals = .ok result ↔
      amount * decimalScale decimals ≤ maxUint256 ∧ amount * decimalScale decimals = result :=
  SafeMath.mul_eq_ok

theorem decimalScale_pos {decimals : ℕ} (hdecimals : decimals ≤ 18) :
    0 < decimalScale decimals := by
  rw [decimalScale, if_pos hdecimals]
  exact Nat.pow_pos (by decide)

/-- A quantity that is not negative is rounded down. -/
theorem fromPreciseUnitToDecimalsInt_of_nat {amount decimals : ℕ} {result : ℤ}
    (hcall : fromPreciseUnitToDecimalsInt amount decimals = .ok result) :
    result = (amount / decimalScale decimals : ℕ) := by
  rcases (decimalScale decimals).eq_zero_or_pos with hzero | hpos
  · simp [fromPreciseUnitToDecimalsInt, SignedSafeMath.div, hzero] at hcall
  · rw [fromPreciseUnitToDecimalsInt,
      SignedSafeMath.div_eq_ok_of_pos (Nat.cast_pos.mpr hpos),
      Int.tdiv_eq_ediv_of_nonneg (Nat.cast_nonneg amount), ← Int.natCast_ediv] at hcall
    exact hcall.symm

end SetProtocol.UnitConversionUtils
