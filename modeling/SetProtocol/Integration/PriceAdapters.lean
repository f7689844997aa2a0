import SetProtocol.Arithmetic.SafeMath
import SetProtocol.Library.Saturation

/-!
# Bounded stepwise price adapters

The price of an auction moves from an initial price, in one direction and in steps of one
bucket, until it meets a bound.  Three adapters differ in how far it has moved after a
number of buckets.  Their data is decoded from bytes, and the other arguments of `getPrice`
are not read.
-/

namespace SetProtocol

open Transaction Saturation

/-! ## Arithmetic of Solidity 0.8 -/

namespace Checked

def mul (a b : ℕ) : Outcome ℕ := do
  require (a * b ≤ maxUint256) "Panic(0x11)"
  pure (a * b)

def add (a b : ℕ) : Outcome ℕ := do
  require (a + b ≤ maxUint256) "Panic(0x11)"
  pure (a + b)

def sub (a b : ℕ) : Outcome ℕ := do
  require (b ≤ a) "Panic(0x11)"
  pure (a - b)

def div (a b : ℕ) : Outcome ℕ := do
  require (0 < b) "Panic(0x12)"
  pure (a / b)

@[simp]
theorem mul_eq_ok {a b c : ℕ} : mul a b = .ok c ↔ a * b ≤ maxUint256 ∧ a * b = c := by
  simp only [mul, bind_eq_ok, require_eq_ok, exists_const, pure_eq_ok]

@[simp]
theorem add_eq_ok {a b c : ℕ} : add a b = .ok c ↔ a + b ≤ maxUint256 ∧ a + b = c := by
  simp only [add, bind_eq_ok, require_eq_ok, exists_const, pure_eq_ok]

@[simp]
theorem sub_eq_ok {a b c : ℕ} : sub a b = .ok c ↔ b ≤ a ∧ a - b = c := by
  simp only [sub, bind_eq_ok, require_eq_ok, exists_const, pure_eq_ok]

@[simp]
theorem div_eq_ok {a b c : ℕ} : div a b = .ok c ↔ 0 < b ∧ a / b = c := by
  simp only [div, bind_eq_ok, require_eq_ok, exists_const, pure_eq_ok]

end Checked

/-- `uint256(value)`, of an `int256`. -/
def wordOfInt (value : ℤ) : ℕ := (value % 2 ^ 256).toNat

/-- `int256(value)`, of a `uint256`. -/
def intOfWord (value : ℕ) : ℤ := if (value : ℤ) ≤ maxInt256 then value else value - 2 ^ 256

/-! ## What the adapters share -/

/-- The data that all three adapters decode.  Every value is a machine word. -/
structure PriceRange where
  initialPrice : ℕ
  bucketSize : ℕ
  isDecreasing : Bool
  maxPrice : ℕ
  minPrice : ℕ
  initialPrice_fits : initialPrice ≤ maxUint256

/-- The checks that `areParamsValid` makes in all three adapters. -/
def PriceRange.areParamsValid (range : PriceRange) : Bool :=
  decide (0 < range.initialPrice) && decide (0 < range.bucketSize) &&
    decide (range.initialPrice ≤ range.maxPrice) &&
    decide (range.minPrice ≤ range.initialPrice)

/-- `_getBoundaryPrice` -/
def PriceRange.getBoundaryPrice (range : PriceRange) : ℕ :=
  if range.isDecreasing = true then range.minPrice else range.maxPrice

/-- How `getPrice` ends in all three adapters. -/
def PriceRange.changePrice (range : PriceRange) (priceChange : ℕ) : Outcome ℕ :=
  if range.isDecreasing = true then
    if range.initialPrice < priceChange then .ok range.minPrice
    else do
      let price ← Checked.sub range.initialPrice priceChange
      pure (max price range.minPrice)
  else do
    let headroom ← Checked.sub maxUint256 range.initialPrice
    if headroom < priceChange then pure range.maxPrice
    else do
      let price ← Checked.add range.initialPrice priceChange
      pure (min price range.maxPrice)

/-! ## BoundedStepwiseLinearPriceAdapter -/

structure LinearData extends PriceRange where
  slope : ℕ

namespace BoundedStepwiseLinearPriceAdapter

def areParamsValid (data : LinearData) : Bool :=
  data.toPriceRange.areParamsValid && decide (0 < data.slope)

def getPrice (data : LinearData) (timeElapsed : ℕ) : Outcome ℕ := do
  require (areParamsValid data = true) "BoundedStepwiseLinearPriceAdapter: Invalid params"
  let bucket ← Checked.div timeElapsed data.bucketSize
  let largestBucket ← Checked.div maxUint256 data.slope
  if largestBucket < bucket then pure data.getBoundaryPrice
  else do
    let priceChange ← Checked.mul bucket data.slope
    data.changePrice priceChange

end BoundedStepwiseLinearPriceAdapter

/-! ## The curves of e -/

/-- The functions of solady that the adapters call, besides `min` and `max`. -/
structure FixedPointMathLib where
  mulWad : ℕ → ℕ → Outcome ℕ
  expWad : ℤ → Outcome ℤ
  lnWad : ℤ → Outcome ℤ

/-- The data of the exponential and of the logarithmic adapter. -/
structure CurveData extends PriceRange where
  scalingFactor : ℕ
  timeCoefficient : ℕ

def CurveData.areParamsValid (data : CurveData) : Bool :=
  data.toPriceRange.areParamsValid && decide (0 < data.scalingFactor) &&
    decide (0 < data.timeCoefficient)

/-- `WAD` -/
def wad : ℕ := 10 ^ 18

namespace BoundedStepwiseExponentialPriceAdapter

/-- `MAX_EXP_ARG` -/
def maxExpArg : ℤ := 100 * 10 ^ 18

def getPrice (math : FixedPointMathLib) (data : CurveData) (timeElapsed : ℕ) :
    Outcome ℕ := do
  require (data.areParamsValid = true)
    "BoundedStepwiseExponentialPriceAdapter: Invalid params"
  let timeBucket ← Checked.div timeElapsed data.bucketSize
  let largestBucket ← Checked.div (wordOfInt maxInt256) data.timeCoefficient
  if largestBucket < timeBucket then pure data.getBoundaryPrice
  else do
    let argument ← Checked.mul data.timeCoefficient timeBucket
    if maxExpArg < intOfWord argument then pure data.getBoundaryPrice
    else do
      let exponential ← math.expWad (intOfWord argument)
      let expExpression := wordOfInt exponential
      let largestFactor ← Checked.div maxUint256 expExpression
      if largestFactor < data.scalingFactor then pure data.getBoundaryPrice
      else do
        let growth ← Checked.sub expExpression wad
        let priceChange ← math.mulWad data.scalingFactor growth
        data.changePrice priceChange

end BoundedStepwiseExponentialPriceAdapter

namespace BoundedStepwiseLogarithmicPriceAdapter

/-- `MAX_LOG_ARG` -/
def maxLogArg : ℤ := 2 ^ 254 - 1

def getPrice (math : FixedPointMathLib) (data : CurveData) (timeElapsed : ℕ) :
    Outcome ℕ := do
  require (data.areParamsValid = true)
    "BoundedStepwiseLogarithmicPriceAdapter: Invalid params"
  let timeBucket ← Checked.div timeElapsed data.bucketSize
  let largestBucket ← Checked.div (wordOfInt maxInt256) data.timeCoefficient
  if largestBucket < timeBucket then pure data.getBoundaryPrice
  else do
    let argument ← Checked.mul timeBucket data.timeCoefficient
    if maxLogArg < intOfWord argument then pure data.getBoundaryPrice
    else do
      let logarithm ← math.lnWad (intOfWord argument + wad)
      let lnExpression := wordOfInt logarithm
      let largestExpression ← Checked.div maxUint256 data.scalingFactor
      if largestExpression < lnExpression then pure data.getBoundaryPrice
      else do
        let priceChange ← math.mulWad data.scalingFactor lnExpression
        data.changePrice priceChange

end BoundedStepwiseLogarithmicPriceAdapter

end SetProtocol
