import Mathlib.Analysis.Complex.ExponentialBounds
import Mathlib.Analysis.SpecialFunctions.Log.Basic
import SetProtocol.Integration.PriceAdapters

/-!
# The price curves of the adapters

Each adapter computes how far the price has moved as a chain of monotone functions with
limits between them.  A limit that is passed on the way stands for an unbounded movement.
The curves are therefore total, bounded and monotone; they start at the initial price
unless the first step already passes a limit.
-/

namespace SetProtocol

open Transaction Saturation

/-- The price after a movement. -/
def PriceRange.priceAfter (range : PriceRange) (moved : WithTop ℕ) : ℕ :=
  if range.isDecreasing = true then descend range.initialPrice range.minPrice moved
  else ascend range.initialPrice range.maxPrice
    (guarded (maxUint256 - range.initialPrice) moved)

variable {range : PriceRange}

theorem PriceRange.areParamsValid_iff : range.areParamsValid = true ↔
    0 < range.initialPrice ∧ 0 < range.bucketSize ∧
      range.initialPrice ≤ range.maxPrice ∧ range.minPrice ≤ range.initialPrice := by
  simp only [areParamsValid, Bool.and_eq_true, decide_eq_true_eq, and_assoc]

@[simp]
theorem PriceRange.priceAfter_top : range.priceAfter ⊤ = range.getBoundaryPrice := by
  rw [priceAfter, getBoundaryPrice, guarded_top]
  rfl

/-- The comparisons before the last subtraction and the last addition change nothing. -/
theorem PriceRange.changePrice_eq (priceChange : ℕ) :
    range.changePrice priceChange = .ok (range.priceAfter (WithTop.some priceChange)) := by
  rw [changePrice, priceAfter]
  split
  · split
    · rename_i hless
      change _ = Except.ok (max (range.initialPrice - priceChange) range.minPrice)
      rw [Nat.sub_eq_zero_of_le hless.le, Nat.zero_max]
    · rename_i henough
      rw [Checked.sub_eq_ok.mpr ⟨Nat.le_of_not_lt henough, rfl⟩]
      rfl
  · rw [Checked.sub_eq_ok.mpr ⟨range.initialPrice_fits, rfl⟩, ok_bind]
    split
    · rename_i hless
      rw [guarded_of_lt hless]
      rfl
    · rename_i hfits
      have hsum : range.initialPrice + priceChange ≤ maxUint256 := by
        have hinitial := range.initialPrice_fits
        omega
      rw [Checked.add_eq_ok.mpr ⟨hsum, rfl⟩, guarded_of_le (Nat.le_of_not_lt hfits)]
      rfl

/-- Not moving, and moving without bound, at the first step. -/
theorem PriceRange.priceAfter_zero (hvalid : range.areParamsValid = true) :
    range.priceAfter (WithTop.some 0) = range.initialPrice := by
  obtain ⟨-, -, hmax, hmin⟩ := PriceRange.areParamsValid_iff.mp hvalid
  rw [priceAfter, guarded_of_le (Nat.zero_le _)]
  split
  · exact max_eq_left hmin
  · exact ascend_zero hmax

/-- What the auction module relies on. -/
structure IsBoundedCurve (range : PriceRange) (getPrice : ℕ → Outcome ℕ) : Prop where
  bounded : ∀ timeElapsed, ∃ price, getPrice timeElapsed = .ok price ∧
    range.minPrice ≤ price ∧ price ≤ range.maxPrice
  starts : ∀ timeElapsed, timeElapsed < range.bucketSize →
    getPrice timeElapsed = .ok range.initialPrice
  monotone : ∀ earlier later price next, earlier ≤ later → getPrice earlier = .ok price →
    getPrice later = .ok next →
      if range.isDecreasing = true then next ≤ price else price ≤ next

/-- The curve of a monotone movement lacks at most its start. -/
theorem isBoundedCurve_iff (hvalid : range.areParamsValid = true)
    {getPrice : ℕ → Outcome ℕ} {moved : ℕ → WithTop ℕ} (hmoved : Monotone moved)
    (hprice : ∀ timeElapsed, getPrice timeElapsed =
      .ok (range.priceAfter (moved (timeElapsed / range.bucketSize)))) :
    IsBoundedCurve range getPrice ↔ range.priceAfter (moved 0) = range.initialPrice := by
  obtain ⟨-, hbucket, hmax, hmin⟩ := PriceRange.areParamsValid_iff.mp hvalid
  constructor
  · intro hcurve
    have hfirst := hcurve.starts 0 hbucket
    rw [hprice, Nat.zero_div, Except.ok.injEq] at hfirst
    exact hfirst
  · intro hstart
    have hbuckets : ∀ earlier later, earlier ≤ later →
        moved (earlier / range.bucketSize) ≤ moved (later / range.bucketSize) :=
      fun earlier later hle => hmoved (Nat.div_le_div_right hle)
    have hmonotone : ∀ {lower upper : WithTop ℕ}, lower ≤ upper →
        if range.isDecreasing = true then range.priceAfter upper ≤ range.priceAfter lower
        else range.priceAfter lower ≤ range.priceAfter upper := by
      intro lower upper hle
      simp only [PriceRange.priceAfter]
      split
      · exact descend_antitone _ _ hle
      · exact ascend_monotone _ _ (guarded_monotone _ hle)
    refine ⟨fun timeElapsed => ⟨_, hprice timeElapsed, ?_⟩, fun timeElapsed hfirst => ?_,
      fun earlier later price next hle hearlier hlater => ?_⟩
    · have hlater := hmonotone (hbuckets 0 timeElapsed (Nat.zero_le _))
      rw [Nat.zero_div, hstart] at hlater
      split at hlater
      · rename_i hdecreasing
        refine ⟨?_, hlater.trans hmax⟩
        rw [PriceRange.priceAfter, if_pos hdecreasing]
        exact le_descend _
      · rename_i hincreasing
        refine ⟨hmin.trans hlater, ?_⟩
        rw [PriceRange.priceAfter, if_neg hincreasing]
        exact ascend_le _
    · rw [hprice, Nat.div_eq_of_lt hfirst, hstart]
    · rw [hprice, Except.ok.injEq] at hearlier hlater
      rw [← hearlier, ← hlater]
      exact hmonotone (hbuckets earlier later hle)

/-! ## The linear curve -/

namespace BoundedStepwiseLinearPriceAdapter

variable {data : LinearData}

def moved (data : LinearData) (bucket : ℕ) : WithTop ℕ :=
  (guarded (maxUint256 / data.slope) (WithTop.some bucket)).map (· * data.slope)

theorem moved_monotone (data : LinearData) : Monotone (moved data) := by
  intro earlier later hle
  have hscale : Monotone fun bucket => bucket * data.slope :=
    fun lower upper hle => Nat.mul_le_mul_right data.slope hle
  exact hscale.withTop_map (guarded_monotone _ (WithTop.coe_le_coe.mpr hle))

theorem getPrice_eq (hvalid : areParamsValid data = true) (timeElapsed : ℕ) :
    getPrice data timeElapsed =
      .ok (data.priceAfter (moved data (timeElapsed / data.bucketSize))) := by
  have hparams := hvalid
  simp only [areParamsValid, Bool.and_eq_true, PriceRange.areParamsValid_iff,
    decide_eq_true_eq] at hparams
  obtain ⟨⟨-, hbucket, -, -⟩, hslope⟩ := hparams
  rw [getPrice, require, if_pos hvalid, ok_bind,
    Checked.div_eq_ok.mpr ⟨hbucket, rfl⟩, ok_bind, Checked.div_eq_ok.mpr ⟨hslope, rfl⟩, ok_bind, moved]
  split
  · rename_i hlimit
    rw [guarded_of_lt hlimit, WithTop.map_top, PriceRange.priceAfter_top]
    rfl
  · rename_i hlimit
    rw [not_lt, Nat.le_div_iff_mul_le hslope] at hlimit
    rw [Checked.mul_eq_ok.mpr ⟨hlimit, rfl⟩, ok_bind, PriceRange.changePrice_eq,
      guarded_of_le ((Nat.le_div_iff_mul_le hslope).mpr hlimit), WithTop.map_coe]

theorem isBoundedCurve (hvalid : areParamsValid data = true) :
    IsBoundedCurve data.toPriceRange (getPrice data) := by
  have hrange : data.toPriceRange.areParamsValid = true := by
    rw [areParamsValid, Bool.and_eq_true] at hvalid
    exact hvalid.1
  rw [isBoundedCurve_iff hrange (moved_monotone data) (getPrice_eq hvalid), moved,
    guarded_of_le (Nat.zero_le _), WithTop.map_coe, Nat.zero_mul]
  exact PriceRange.priceAfter_zero hrange

end BoundedStepwiseLinearPriceAdapter

/-! ## The functions of solady -/

/-- A function on fixed-point numbers that returns and does not fall between two
arguments.  Its results are signed machine words. -/
structure RisesOn (compute : ℤ → Outcome ℤ) (low high base : ℤ) : Prop where
  starts : compute low = .ok base
  returns : ∀ argument, low < argument → argument ≤ high →
    ∃ result, compute argument = .ok result
  rises : ∀ argument greater result other, low ≤ argument → argument ≤ greater →
    greater ≤ high → compute argument = .ok result → compute greater = .ok other →
    result ≤ other
  fits : ∀ argument result, low ≤ argument → argument ≤ high →
    compute argument = .ok result → result ≤ maxInt256

/-- What the adapters rely on: multiplication rounds down, and e-curves rise. -/
structure FixedPointMathLib.Documented (math : FixedPointMathLib) : Prop where
  mulWad : ∀ x y, x * y ≤ maxUint256 → math.mulWad x y = .ok (x * y / wad)
  expWad : RisesOn math.expWad 0 BoundedStepwiseExponentialPriceAdapter.maxExpArg wad
  lnWad : RisesOn math.lnWad wad maxInt256 0

theorem wordOfInt_eq {value : ℤ} (hvalue : 0 ≤ value) (hfits : value ≤ maxInt256) :
    wordOfInt value = value.toNat := by
  rw [wordOfInt, Int.emod_eq_of_lt hvalue]
  exact hfits.trans_lt (by decide)

/-- Such a function has readings from its first argument on, which become constant where
nothing is known of it. -/
theorem RisesOn.exists_reading {compute : ℤ → Outcome ℤ} {low high base : ℤ}
    (hcompute : RisesOn compute low high base) (hbase : 0 ≤ base) (hrange : low ≤ high) :
    ∃ reading : ℕ → ℕ, Monotone reading ∧ reading 0 = base.toNat ∧
      ∀ offset : ℕ, low + offset ≤ high →
        ∃ result, compute (low + offset) = .ok result ∧
          wordOfInt result = reading offset := by
  have hreturns : ∀ argument, low ≤ argument → argument ≤ high →
      ∃ result, compute argument = .ok result := by
    intro argument hlow hhigh
    rcases hlow.eq_or_lt with rfl | hlow
    · exact ⟨base, hcompute.starts⟩
    · exact hcompute.returns argument hlow hhigh
  have hclipped : ∀ offset : ℕ, ∃ result,
      compute (min (low + offset) high) = .ok result :=
    fun offset => hreturns _ (le_min (by omega) hrange) (min_le_right _ _)
  choose result hresult using hclipped
  have hrises : Monotone result := by
    intro lower upper hle
    exact hcompute.rises _ _ _ _ (le_min (by omega) hrange)
      (min_le_min_right _ (by omega)) (min_le_right _ _) (hresult lower) (hresult upper)
  have hfirst : result 0 = base := by
    have hstart := hresult 0
    rw [Nat.cast_zero, add_zero, min_eq_left hrange, hcompute.starts,
      Except.ok.injEq] at hstart
    exact hstart.symm
  refine ⟨fun offset => (result offset).toNat,
    fun lower upper hle => Int.toNat_le_toNat (hrises hle),
    congrArg Int.toNat hfirst, ?_⟩
  intro offset hoffset
  have hcall := hresult offset
  rw [min_eq_left hoffset] at hcall
  have hnonneg : 0 ≤ result offset := (hbase.trans hfirst.ge).trans (hrises (Nat.zero_le _))
  have hfits := hcompute.fits _ _ (by omega) hoffset hcall
  exact ⟨_, hcall, wordOfInt_eq hnonneg hfits⟩

/-! ## The curves of e -/

variable {data : CurveData} {math : FixedPointMathLib} {largestArgument base : ℕ}
  {reading : ℕ → ℕ}

theorem CurveData.areParamsValid_iff : data.areParamsValid = true ↔
    data.toPriceRange.areParamsValid = true ∧ 0 < data.scalingFactor ∧
      0 < data.timeCoefficient := by
  simp only [areParamsValid, Bool.and_eq_true, decide_eq_true_eq, and_assoc]

/-- Both curves, as readings of a function that starts at the base. -/
def CurveData.moved (data : CurveData) (largestArgument base : ℕ) (reading : ℕ → ℕ)
    (bucket : ℕ) : WithTop ℕ :=
  let argument := (guarded (wordOfInt maxInt256 / data.timeCoefficient)
    (WithTop.some bucket)).map (data.timeCoefficient * ·)
  let expression := (guarded largestArgument argument).map reading
  (guarded (maxUint256 / data.scalingFactor) expression).map
    fun value => data.scalingFactor * (value - base) / wad

theorem CurveData.moved_monotone (hreading : Monotone reading) :
    Monotone (data.moved largestArgument base reading) := by
  intro earlier later hle
  have hscale : Monotone (data.timeCoefficient * ·) :=
    fun lower upper hle => Nat.mul_le_mul_left _ hle
  have hchange : Monotone fun value => data.scalingFactor * (value - base) / wad :=
    fun lower upper hle =>
      Nat.div_le_div_right (Nat.mul_le_mul_left _ (Nat.sub_le_sub_right hle base))
  have hargument := hscale.withTop_map (guarded_monotone
    (wordOfInt maxInt256 / data.timeCoefficient) (WithTop.coe_le_coe.mpr hle))
  have hexpression := hreading.withTop_map (guarded_monotone largestArgument hargument)
  exact hchange.withTop_map (guarded_monotone _ hexpression)

/-- The first step passes a limit if the base itself does, once it is scaled. -/
theorem CurveData.moved_zero (hreading : reading 0 = base) :
    data.moved largestArgument base reading 0 =
      if maxUint256 / data.scalingFactor < base then ⊤ else WithTop.some 0 := by
  rw [moved, guarded_of_le (Nat.zero_le _), WithTop.map_coe, Nat.mul_zero,
    guarded_of_le (Nat.zero_le _), WithTop.map_coe, hreading]
  split
  · rename_i hlimit
    rw [guarded_of_lt hlimit, WithTop.map_top]
  · rename_i hlimit
    rw [guarded_of_le (Nat.le_of_not_lt hlimit), WithTop.map_coe, Nat.sub_self,
      Nat.mul_zero, Nat.zero_div]

/-- The two limits of the argument, the second as a signed comparison. -/
theorem intOfWord_eq {value : ℕ} (hvalue : value ≤ wordOfInt maxInt256) :
    intOfWord value = value := by
  rw [intOfWord, if_pos]
  have hlimit : (wordOfInt maxInt256 : ℤ) = maxInt256 := by decide
  omega

namespace BoundedStepwiseExponentialPriceAdapter

theorem getPrice_eq (hmath : math.Documented) (hvalid : data.areParamsValid = true)
    (hfirst : reading 0 = wad) (hreading : Monotone reading)
    (hreads : ∀ argument : ℕ, 0 + (argument : ℤ) ≤ maxExpArg →
      ∃ result, math.expWad (0 + argument) = .ok result ∧
        wordOfInt result = reading argument) (timeElapsed : ℕ) :
    getPrice math data timeElapsed = .ok (data.priceAfter
      (data.moved maxExpArg.toNat wad reading (timeElapsed / data.bucketSize))) := by
  obtain ⟨hrange, hfactor, hcoefficient⟩ := CurveData.areParamsValid_iff.mp hvalid
  obtain ⟨-, hbucket, -, -⟩ := PriceRange.areParamsValid_iff.mp hrange
  rw [getPrice, require, if_pos hvalid, ok_bind, Checked.div_eq_ok.mpr ⟨hbucket, rfl⟩,
    ok_bind, Checked.div_eq_ok.mpr ⟨hcoefficient, rfl⟩, ok_bind, CurveData.moved]
  split
  · rename_i hlimit
    rw [guarded_of_lt hlimit]
    simp only [WithTop.map_top, guarded_top, PriceRange.priceAfter_top]
    rfl
  rename_i hlimit
  rw [not_lt] at hlimit
  have hargument : data.timeCoefficient * (timeElapsed / data.bucketSize) ≤
      wordOfInt maxInt256 := by
    rw [Nat.mul_comm]
    exact (Nat.le_div_iff_mul_le hcoefficient).mp hlimit
  have hword : wordOfInt maxInt256 ≤ maxUint256 := by decide
  rw [Checked.mul_eq_ok.mpr ⟨hargument.trans hword, rfl⟩, ok_bind, guarded_of_le hlimit,
    WithTop.map_coe, intOfWord_eq hargument]
  generalize data.timeCoefficient * (timeElapsed / data.bucketSize) = argument
  have hlargest : (maxExpArg.toNat : ℤ) = maxExpArg := by decide
  split
  · rename_i hlimit
    rw [guarded_of_lt (by omega)]
    simp only [WithTop.map_top, guarded_top, PriceRange.priceAfter_top]
    rfl
  rename_i hlimit
  obtain ⟨result, hcall, hword⟩ := hreads argument (by omega)
  rw [zero_add] at hcall
  rw [hcall, ok_bind, hword, guarded_of_le (by omega), WithTop.map_coe]
  have hbase : wad ≤ reading argument := hfirst ▸ hreading (Nat.zero_le argument)
  have hpositive : 0 < reading argument := lt_of_lt_of_le (by decide) hbase
  dsimp only
  rw [Checked.div_eq_ok.mpr ⟨hpositive, rfl⟩, ok_bind]
  -- the source compares the factor, and the curve the expression, with what still fits
  have hswap : maxUint256 / reading argument < data.scalingFactor ↔
      maxUint256 / data.scalingFactor < reading argument := by
    rw [Nat.div_lt_iff_lt_mul hpositive, Nat.div_lt_iff_lt_mul hfactor, Nat.mul_comm]
  split
  · rename_i hlimit
    rw [guarded_of_lt (hswap.mp hlimit), WithTop.map_top, PriceRange.priceAfter_top]
    rfl
  rename_i hlimit
  have hfits : data.scalingFactor * reading argument ≤ maxUint256 := by
    rw [Nat.mul_comm, ← Nat.le_div_iff_mul_le hfactor]
    exact Nat.le_of_not_lt fun hless => hlimit (hswap.mpr hless)
  rw [guarded_of_le (Nat.le_of_not_lt fun hless => hlimit (hswap.mpr hless)),
    WithTop.map_coe, Checked.sub_eq_ok.mpr ⟨hbase, rfl⟩, ok_bind,
    hmath.mulWad _ _ ((Nat.mul_le_mul_left _ (Nat.sub_le _ _)).trans hfits), ok_bind,
    PriceRange.changePrice_eq]

/-- The limit on the factor also rules out the first step, which moves nowhere. -/
theorem isBoundedCurve_iff_scalingFactor (hmath : math.Documented)
    (hvalid : data.areParamsValid = true) :
    IsBoundedCurve data.toPriceRange (getPrice math data) ↔
      data.scalingFactor ≤ maxUint256 / wad ∨
        data.getBoundaryPrice = data.initialPrice := by
  obtain ⟨hrange, hfactor, -⟩ := CurveData.areParamsValid_iff.mp hvalid
  obtain ⟨reading, hreading, hfirst, hreads⟩ :=
    hmath.expWad.exists_reading (by decide) (by decide)
  rw [Int.toNat_natCast] at hfirst
  rw [isBoundedCurve_iff hrange (CurveData.moved_monotone hreading)
      (getPrice_eq hmath hvalid hfirst hreading hreads), CurveData.moved_zero hfirst]
  have hlimit : maxUint256 / data.scalingFactor < wad ↔
      ¬data.scalingFactor ≤ maxUint256 / wad := by
    rw [Nat.div_lt_iff_lt_mul hfactor, Nat.le_div_iff_mul_le (by decide), not_le,
      Nat.mul_comm]
  split
  · rename_i hless
    rw [PriceRange.priceAfter_top, or_iff_right (hlimit.mp hless)]
  · rename_i henough
    exact iff_of_true (PriceRange.priceAfter_zero hrange)
      (Or.inl (not_not.mp fun hless => henough (hlimit.mpr hless)))

end BoundedStepwiseExponentialPriceAdapter

namespace BoundedStepwiseLogarithmicPriceAdapter

theorem getPrice_eq (hmath : math.Documented) (hvalid : data.areParamsValid = true)
    (hreads : ∀ argument : ℕ, (wad : ℤ) + argument ≤ maxInt256 →
      ∃ result, math.lnWad (wad + argument) = .ok result ∧
        wordOfInt result = reading argument) (timeElapsed : ℕ) :
    getPrice math data timeElapsed = .ok (data.priceAfter
      (data.moved maxLogArg.toNat 0 reading (timeElapsed / data.bucketSize))) := by
  obtain ⟨hrange, hfactor, hcoefficient⟩ := CurveData.areParamsValid_iff.mp hvalid
  obtain ⟨-, hbucket, -, -⟩ := PriceRange.areParamsValid_iff.mp hrange
  rw [getPrice, require, if_pos hvalid, ok_bind, Checked.div_eq_ok.mpr ⟨hbucket, rfl⟩,
    ok_bind, Checked.div_eq_ok.mpr ⟨hcoefficient, rfl⟩, ok_bind, CurveData.moved]
  split
  · rename_i hlimit
    rw [guarded_of_lt hlimit]
    simp only [WithTop.map_top, guarded_top, PriceRange.priceAfter_top]
    rfl
  rename_i hlimit
  rw [not_lt] at hlimit
  have hargument : timeElapsed / data.bucketSize * data.timeCoefficient ≤
      wordOfInt maxInt256 := (Nat.le_div_iff_mul_le hcoefficient).mp hlimit
  have hword : wordOfInt maxInt256 ≤ maxUint256 := by decide
  rw [Checked.mul_eq_ok.mpr ⟨hargument.trans hword, rfl⟩, ok_bind, guarded_of_le hlimit,
    WithTop.map_coe, intOfWord_eq hargument, Nat.mul_comm data.timeCoefficient]
  generalize timeElapsed / data.bucketSize * data.timeCoefficient = argument
  have hlargest : (maxLogArg.toNat : ℤ) = maxLogArg := by decide
  have hroom : maxLogArg + wad ≤ maxInt256 := by decide
  split
  · rename_i hlimit
    rw [guarded_of_lt (by omega)]
    simp only [WithTop.map_top, guarded_top, PriceRange.priceAfter_top]
    rfl
  rename_i hlimit
  obtain ⟨result, hcall, hword⟩ := hreads argument (by omega)
  rw [add_comm] at hcall
  rw [hcall, ok_bind, hword, guarded_of_le (by omega), WithTop.map_coe]
  dsimp only
  rw [Checked.div_eq_ok.mpr ⟨hfactor, rfl⟩, ok_bind]
  split
  · rename_i hlimit
    rw [guarded_of_lt hlimit, WithTop.map_top, PriceRange.priceAfter_top]
    rfl
  rename_i hlimit
  rw [not_lt, Nat.le_div_iff_mul_le hfactor, Nat.mul_comm] at hlimit
  rw [guarded_of_le ((Nat.le_div_iff_mul_le hfactor).mpr (Nat.mul_comm _ _ ▸ hlimit)),
    WithTop.map_coe, hmath.mulWad _ _ hlimit, ok_bind, PriceRange.changePrice_eq,
    Nat.sub_zero]

theorem isBoundedCurve (hmath : math.Documented) (hvalid : data.areParamsValid = true) :
    IsBoundedCurve data.toPriceRange (getPrice math data) := by
  obtain ⟨hrange, hfactor, -⟩ := CurveData.areParamsValid_iff.mp hvalid
  obtain ⟨reading, hreading, hfirst, hreads⟩ :=
    hmath.lnWad.exists_reading (le_refl 0) (by decide)
  change reading 0 = 0 at hfirst
  rw [isBoundedCurve_iff hrange (CurveData.moved_monotone hreading)
      (getPrice_eq hmath hvalid hreads), CurveData.moved_zero hfirst,
    if_neg (Nat.not_lt_zero _)]
  exact PriceRange.priceAfter_zero hrange

end BoundedStepwiseLogarithmicPriceAdapter

/-! ## Any of the adapters -/

/-- An adapter with the data that it decodes. -/
inductive PriceAdapter
  | linear (data : LinearData)
  | exponential (data : CurveData)
  | logarithmic (data : CurveData)

namespace PriceAdapter

def priceRange : PriceAdapter → PriceRange
  | linear data => data.toPriceRange
  | exponential data => data.toPriceRange
  | logarithmic data => data.toPriceRange

def areParamsValid : PriceAdapter → Bool
  | linear data => BoundedStepwiseLinearPriceAdapter.areParamsValid data
  | exponential data => data.areParamsValid
  | logarithmic data => data.areParamsValid

def getPrice (math : FixedPointMathLib) : PriceAdapter → ℕ → Outcome ℕ
  | linear data => BoundedStepwiseLinearPriceAdapter.getPrice data
  | exponential data => BoundedStepwiseExponentialPriceAdapter.getPrice math data
  | logarithmic data => BoundedStepwiseLogarithmicPriceAdapter.getPrice math data

/-- The scaling factor of an exponential curve fits a machine word once it is scaled, or
the auction starts at its boundary price anyway. -/
def FirstStepFits : PriceAdapter → Prop
  | exponential data => data.scalingFactor ≤ maxUint256 / wad ∨
      data.getBoundaryPrice = data.initialPrice
  | _ => True

/-- Every valid curve is total, bounded and monotone and starts at its initial price,
except for exponential curves with a very large factor. -/
theorem isBoundedCurve_iff_firstStepFits {adapter : PriceAdapter}
    (hmath : math.Documented) (hvalid : adapter.areParamsValid = true) :
    IsBoundedCurve adapter.priceRange (adapter.getPrice math) ↔ adapter.FirstStepFits := by
  cases adapter with
  | linear data =>
      exact iff_of_true (BoundedStepwiseLinearPriceAdapter.isBoundedCurve hvalid) trivial
  | exponential data =>
      exact BoundedStepwiseExponentialPriceAdapter.isBoundedCurve_iff_scalingFactor hmath
        hvalid
  | logarithmic data =>
      exact iff_of_true (BoundedStepwiseLogarithmicPriceAdapter.isBoundedCurve hmath hvalid)
        trivial

end PriceAdapter

/-! ## The functions that solady approximates -/

/-- Rounded down, on the arguments that the adapters pass. -/
noncomputable def exactMath : FixedPointMathLib where
  mulWad x y := if x * y ≤ maxUint256 then .ok (x * y / wad) else .error "MulWadFailed()"
  expWad argument :=
    if argument ≤ BoundedStepwiseExponentialPriceAdapter.maxExpArg then
      .ok ⌊Real.exp (argument / 10 ^ 18) * 10 ^ 18⌋
    else .error "ExpOverflow()"
  lnWad argument :=
    if 0 < argument then .ok ⌊Real.log (argument / 10 ^ 18) * 10 ^ 18⌋
    else .error "LnWadUndefined()"

theorem floor_exp_le {argument : ℤ}
    (hargument : argument ≤ BoundedStepwiseExponentialPriceAdapter.maxExpArg) :
    ⌊Real.exp (argument / 10 ^ 18) * 10 ^ 18⌋ ≤ maxInt256 := by
  have hreal : (argument : ℝ) / 10 ^ 18 ≤ (100 : ℕ) * 1 := by
    rw [div_le_iff₀ (by positivity)]
    have hcast : (argument : ℝ) ≤ ((100 * 10 ^ 18 : ℤ) : ℝ) := Int.cast_le.mpr hargument
    push_cast at hcast ⊢
    linarith
  have hexp : Real.exp (argument / 10 ^ 18) ≤ 3 ^ 100 := by
    calc Real.exp (argument / 10 ^ 18) ≤ Real.exp ((100 : ℕ) * 1) := Real.exp_le_exp.mpr hreal
      _ = Real.exp 1 ^ 100 := Real.exp_nat_mul 1 100
      _ ≤ 3 ^ 100 := pow_le_pow_left₀ (Real.exp_pos 1).le Real.exp_one_lt_three.le 100
  have hfloor := Int.floor_le (Real.exp (argument / 10 ^ 18) * 10 ^ 18)
  have hlimit : (3 : ℝ) ^ 100 * 10 ^ 18 ≤ ((2 ^ 255 - 1 : ℤ) : ℝ) := by norm_num
  have htotal : (⌊Real.exp (argument / 10 ^ 18) * 10 ^ 18⌋ : ℝ) ≤ ((2 ^ 255 - 1 : ℤ) : ℝ) :=
    hfloor.trans ((mul_le_mul_of_nonneg_right hexp (by positivity)).trans hlimit)
  exact Int.cast_le.mp htotal

theorem documented_exactMath : exactMath.Documented where
  mulWad x y hfits := if_pos hfits
  expWad := {
    starts := by
      simp only [exactMath, Int.cast_zero, zero_div, Real.exp_zero, one_mul]
      rw [if_pos (by decide), Except.ok.injEq]
      exact_mod_cast Int.floor_natCast (10 ^ 18)
    returns := fun argument _ hhigh => ⟨_, if_pos hhigh⟩
    rises := by
      intro argument greater result other _ hle hhigh hcall hother
      simp only [exactMath, if_pos (hle.trans hhigh), if_pos hhigh,
        Except.ok.injEq] at hcall hother
      rw [← hcall, ← hother]
      apply Int.floor_mono
      gcongr
    fits := by
      intro argument result _ hhigh hcall
      simp only [exactMath, if_pos hhigh, Except.ok.injEq] at hcall
      exact hcall ▸ floor_exp_le hhigh }
  lnWad := {
    starts := by
      simp only [exactMath]
      rw [if_pos (by decide), Except.ok.injEq]
      have hone : (((wad : ℕ) : ℤ) : ℝ) / 10 ^ 18 = 1 := by
        rw [wad]
        norm_num
      rw [hone, Real.log_one, zero_mul, Int.floor_zero]
    returns := fun argument hlow _ => ⟨_, if_pos (lt_trans (by decide) hlow)⟩
    rises := by
      intro argument greater result other hlow hle hhigh hcall hother
      have hpositive : 0 < argument := lt_of_lt_of_le (by decide) hlow
      simp only [exactMath, if_pos hpositive, if_pos (hpositive.trans_le hle),
        Except.ok.injEq] at hcall hother
      rw [← hcall, ← hother]
      have hreal : (0 : ℝ) < argument := Int.cast_pos.mpr hpositive
      apply Int.floor_mono
      gcongr
    fits := by
      intro argument result hlow hhigh hcall
      have hpositive : 0 < argument := lt_of_lt_of_le (by decide) hlow
      simp only [exactMath, if_pos hpositive, Except.ok.injEq] at hcall
      have hreal : (0 : ℝ) ≤ (argument : ℝ) / 10 ^ 18 :=
        div_nonneg (by exact_mod_cast hpositive.le) (by positivity)
      have hlog : Real.log (argument / 10 ^ 18) * 10 ^ 18 ≤ argument := by
        rw [← le_div_iff₀ (by positivity)]
        exact Real.log_le_self hreal
      rw [← hcall]
      exact Int.cast_le.mp (((Int.floor_le _).trans hlog).trans (Int.cast_le.mpr hhigh)) }

/-- From one to a half, in steps of a minute. -/
def steepData : CurveData where
  initialPrice := 10 ^ 18
  bucketSize := 60
  isDecreasing := true
  maxPrice := 2 * 10 ^ 18
  minPrice := 5 * 10 ^ 17
  initialPrice_fits := by decide
  scalingFactor := maxUint256 / wad + 1
  timeCoefficient := 1

theorem isBoundedCurve_steepData_iff :
    IsBoundedCurve (PriceAdapter.logarithmic steepData).priceRange
        ((PriceAdapter.logarithmic steepData).getPrice exactMath) ↔
      (PriceAdapter.logarithmic steepData).FirstStepFits :=
  PriceAdapter.isBoundedCurve_iff_firstStepFits documented_exactMath
    (show steepData.areParamsValid = true by decide)

/-- The auction opens at its lowest price. -/
theorem not_isBoundedCurve_steepData :
    exactMath.Documented ∧ (PriceAdapter.exponential steepData).areParamsValid = true ∧
      (PriceAdapter.exponential steepData).getPrice exactMath 0 = .ok (5 * 10 ^ 17) ∧
      ¬IsBoundedCurve steepData.toPriceRange
        ((PriceAdapter.exponential steepData).getPrice exactMath) := by
  have hvalid : steepData.areParamsValid = true := by decide
  have hopens : BoundedStepwiseExponentialPriceAdapter.getPrice exactMath steepData 0 =
      .ok (5 * 10 ^ 17) := by
    obtain ⟨reading, hreading, hfirst, hreads⟩ :=
      documented_exactMath.expWad.exists_reading (by decide) (by decide)
    rw [Int.toNat_natCast] at hfirst
    have hprice := BoundedStepwiseExponentialPriceAdapter.getPrice_eq documented_exactMath
      hvalid hfirst hreading hreads 0
    rwa [Nat.zero_div, CurveData.moved_zero hfirst, if_pos (by decide),
      PriceRange.priceAfter_top] at hprice
  refine ⟨documented_exactMath, hvalid, hopens, fun hcurve => ?_⟩
  have hstarts := hcurve.starts 0 (by decide)
  change BoundedStepwiseExponentialPriceAdapter.getPrice exactMath steepData 0 = _ at hstarts
  rw [hopens] at hstarts
  exact absurd hstarts (by decide)

end SetProtocol
