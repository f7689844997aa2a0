import SetProtocol.Arithmetic.PreciseUnitMath

/-!
# The AMM splitter

A trade is split between Uniswap and Sushiswap in proportion to the depth of their pools.
With one hop that is the balance of the pool; with two hops the depths of both pools enter
a ratio of three quotients, each rounded down to 18 decimals.  Rounding down favours
Sushiswap: the ratio can shrink to nothing while Uniswap is much the deeper venue.
-/

namespace SetProtocol.AMMSplitter

open Transaction PreciseUnitMath Rounding

/-- The factories of the two venues, and the balances of tokens. -/
structure Venues where
  uniGetPair : Address → Address → Address
  sushiGetPair : Address → Address → Address
  /-- By token and holder. -/
  balanceOf : Address → Address → ℕ

structure TradeInfo where
  uniSize : ℕ
  sushiSize : ℕ
  deriving DecidableEq

/-- `_getTokenBalanceInPair`; `getPair` is the zero address if there is no pair. -/
def Venues.getTokenBalanceInPair (venues : Venues) (getPair : Address → Address → Address)
    (pairedToken balanceToken : Address) : ℕ :=
  venues.balanceOf balanceToken (getPair pairedToken balanceToken)

/-- `_checkPath` -/
def checkPath (path : List Address) : Outcome Unit :=
  require (path.length = 2 ∨ path.length = 3) "AMMSplitter: incorrect path length"

/-- `_calculateTwoHopRatio` -/
def calculateTwoHopRatio (uniLiqPoolA uniLiqPoolB sushiLiqPoolA sushiLiqPoolB : ℕ) :
    Outcome ℕ := do
  let sushiLiq ← SafeMath.add sushiLiqPoolA sushiLiqPoolB
  let uniLiq ← SafeMath.add uniLiqPoolA uniLiqPoolB
  let a ← preciseDiv sushiLiq uniLiq
  let b ← preciseDiv uniLiqPoolA sushiLiqPoolA
  let c ← preciseDiv uniLiqPoolB sushiLiqPoolB
  let product ← preciseMul a b
  preciseMul product c

/-- The end of `_getTradeSizes`. -/
def splitSize (size uniPercentage : ℕ) : Outcome TradeInfo := do
  let uniSize ← preciseMul size uniPercentage
  let sushiSize ← SafeMath.sub size uniSize
  pure ⟨uniSize, sushiSize⟩

/-- `_getTradeSizes`.  A path that is too short for its branch has no such entry. -/
def getTradeSizes (venues : Venues) (path : List Address) (size : ℕ) : Outcome TradeInfo :=
  match path with
  | [token, target] => do
      let uniLiqPool := venues.getTokenBalanceInPair venues.uniGetPair token target
      let sushiLiqPool := venues.getTokenBalanceInPair venues.sushiGetPair token target
      let liquidity ← SafeMath.add uniLiqPool sushiLiqPool
      let uniPercentage ← preciseDiv uniLiqPool liquidity
      splitSize size uniPercentage
  | token :: middle :: target :: _ =>
      let uniLiqPoolA := venues.getTokenBalanceInPair venues.uniGetPair token middle
      let uniLiqPoolB := venues.getTokenBalanceInPair venues.uniGetPair target middle
      if uniLiqPoolA = 0 ∨ uniLiqPoolB = 0 then .ok ⟨0, size⟩
      else
        let sushiLiqPoolA := venues.getTokenBalanceInPair venues.sushiGetPair token middle
        let sushiLiqPoolB := venues.getTokenBalanceInPair venues.sushiGetPair target middle
        if sushiLiqPoolA = 0 ∨ sushiLiqPoolB = 0 then .ok ⟨size, 0⟩
        else do
          let ratio ← calculateTwoHopRatio uniLiqPoolA uniLiqPoolB sushiLiqPoolA
            sushiLiqPoolB
          let whole ← SafeMath.add ratio preciseUnit
          let uniPercentage ← preciseDiv ratio whole
          splitSize size uniPercentage
  | _ => .error ""

/-! ## The share of Uniswap -/

/-- The depth ratio, with its quotients rounded down one after the other. -/
def twoHopRatio (uniA uniB sushiA sushiB : ℕ) : ℕ :=
  (sushiA + sushiB) * preciseUnit / (uniA + uniB) * (uniA * preciseUnit / sushiA) /
    preciseUnit * (uniB * preciseUnit / sushiB) / preciseUnit

/-- The share of Uniswap in precise units, from the balances of the pools. -/
def Venues.uniShare (venues : Venues) : List Address → ℕ
  | [token, target] =>
      let uni := venues.getTokenBalanceInPair venues.uniGetPair token target
      let sushi := venues.getTokenBalanceInPair venues.sushiGetPair token target
      uni * preciseUnit / (uni + sushi)
  | token :: middle :: target :: _ =>
      let uniA := venues.getTokenBalanceInPair venues.uniGetPair token middle
      let uniB := venues.getTokenBalanceInPair venues.uniGetPair target middle
      let sushiA := venues.getTokenBalanceInPair venues.sushiGetPair token middle
      let sushiB := venues.getTokenBalanceInPair venues.sushiGetPair target middle
      if uniA = 0 ∨ uniB = 0 then 0
      else if sushiA = 0 ∨ sushiB = 0 then preciseUnit
      else
        let ratio := twoHopRatio uniA uniB sushiA sushiB
        ratio * preciseUnit / (ratio + preciseUnit)
  | _ => 0

variable {venues : Venues} {path : List Address} {size uniPercentage : ℕ} {info : TradeInfo}

/-- A share of the size for Uniswap, rounded down, and the rest. -/
def shareOf (size share : ℕ) : TradeInfo :=
  ⟨size * share / preciseUnit, size - size * share / preciseUnit⟩

theorem splitSize_eq_ok : splitSize size uniPercentage = .ok info ↔
    size * uniPercentage ≤ maxUint256 ∧ size * uniPercentage / preciseUnit ≤ size ∧
      info = shareOf size uniPercentage := by
  simp only [splitSize, bind_eq_ok, preciseMul_eq_ok, SafeMath.sub_eq_ok, pure_eq_ok]
  constructor
  · rintro ⟨_, ⟨hfits, rfl⟩, _, ⟨hle, rfl⟩, rfl⟩
    exact ⟨hfits, hle, rfl⟩
  · rintro ⟨hfits, hle, rfl⟩
    exact ⟨_, ⟨hfits, rfl⟩, _, ⟨hle, rfl⟩, rfl⟩

theorem calculateTwoHopRatio_eq_ok {uniA uniB sushiA sushiB ratio : ℕ}
    (hcall : calculateTwoHopRatio uniA uniB sushiA sushiB = .ok ratio) :
    ratio = twoHopRatio uniA uniB sushiA sushiB := by
  simp only [calculateTwoHopRatio, bind_eq_ok, SafeMath.add_eq_ok, preciseDiv_eq_ok,
    preciseMul_eq_ok] at hcall
  obtain ⟨_, ⟨-, rfl⟩, _, ⟨-, rfl⟩, _, ⟨-, -, rfl⟩, _, ⟨-, -, rfl⟩, _, ⟨-, -, rfl⟩, _,
    ⟨-, rfl⟩, -, rfl⟩ := hcall
  rfl

/-- What a part of a positive whole comes to is at most the whole. -/
theorem mul_div_add_le (part rest : ℕ) :
    part * preciseUnit / (part + rest) ≤ preciseUnit := by
  apply Nat.div_le_of_le_mul
  exact Nat.mul_le_mul_right _ (Nat.le_add_right part rest)

theorem uniShare_le : venues.uniShare path ≤ preciseUnit := by
  rw [Venues.uniShare.eq_def]
  split
  · exact mul_div_add_le _ _
  · dsimp only
    split
    · exact Nat.zero_le _
    · split
      · exact le_refl _
      · exact mul_div_add_le _ _
  · exact Nat.zero_le _

theorem splitSize_of_le {share : ℕ} (hshare : share ≤ preciseUnit)
    (hsize : size * preciseUnit ≤ maxUint256) :
    splitSize size share = .ok (shareOf size share) := by
  have hle : size * share ≤ size * preciseUnit := Nat.mul_le_mul_left size hshare
  refine splitSize_eq_ok.mpr ⟨hle.trans hsize, ?_, rfl⟩
  exact Nat.div_le_of_le_mul (Nat.mul_comm preciseUnit size ▸ hle)

@[simp]
theorem shareOf_zero : shareOf size 0 = ⟨0, size⟩ := by
  rw [shareOf, Nat.mul_zero, Nat.zero_div, Nat.sub_zero]

@[simp]
theorem shareOf_unit : shareOf size preciseUnit = ⟨size, 0⟩ := by
  rw [shareOf, Nat.mul_div_cancel size preciseUnit_pos, Nat.sub_self]

/-- If the computation of the share fits, every size is split by it unless the size itself
does not fit. -/
theorem getTradeSizes_eq_ok (hpath : path.length = 2 ∨ path.length = 3)
    (hcall : getTradeSizes venues path size = .ok info) :
    info = shareOf size (venues.uniShare path) ∧
      ∀ other, other * preciseUnit ≤ maxUint256 →
        getTradeSizes venues path other = .ok (shareOf other (venues.uniShare path)) := by
  match path, hpath with
  | [token, target], _ =>
      simp only [getTradeSizes, Venues.uniShare] at hcall ⊢
      simp only [bind_eq_ok, SafeMath.add_eq_ok, preciseDiv_eq_ok] at hcall
      obtain ⟨_, ⟨hadd, rfl⟩, _, ⟨hfits, hpositive, rfl⟩, hsplit⟩ := hcall
      refine ⟨(splitSize_eq_ok.mp hsplit).2.2, fun other hother => ?_⟩
      rw [SafeMath.add_eq_ok.mpr ⟨hadd, rfl⟩, ok_bind,
        preciseDiv_eq_ok.mpr ⟨hfits, hpositive, rfl⟩, ok_bind]
      exact splitSize_of_le (mul_div_add_le _ _) hother
  | [token, middle, target], _ =>
      simp only [getTradeSizes, Venues.uniShare] at hcall ⊢
      split at hcall
      · rename_i hempty
        refine ⟨?_, fun other _ => ?_⟩
        · rw [if_pos hempty, shareOf_zero, Except.ok.inj hcall]
        · rw [if_pos hempty, if_pos hempty, shareOf_zero]
      · rename_i huni
        simp only [if_neg huni]
        split at hcall
        · rename_i hempty
          refine ⟨?_, fun other _ => ?_⟩
          · rw [if_pos hempty, shareOf_unit, Except.ok.inj hcall]
          · rw [if_pos hempty, if_pos hempty, shareOf_unit]
        · rename_i hsushi
          simp only [if_neg hsushi]
          simp only [bind_eq_ok, SafeMath.add_eq_ok, preciseDiv_eq_ok] at hcall
          obtain ⟨ratio, hratio, _, ⟨hadd, rfl⟩, _, ⟨hfits, hpositive, rfl⟩, hsplit⟩ := hcall
          rw [← calculateTwoHopRatio_eq_ok hratio]
          refine ⟨(splitSize_eq_ok.mp hsplit).2.2, fun other hother => ?_⟩
          rw [hratio, ok_bind, SafeMath.add_eq_ok.mpr ⟨hadd, rfl⟩, ok_bind,
            preciseDiv_eq_ok.mpr ⟨hfits, hpositive, rfl⟩, ok_bind]
          exact splitSize_of_le (mul_div_add_le _ _) hother

/-! ## What every size gets -/

theorem size_of_share {share : ℕ} (hshare : 49 * 10 ^ 16 ≤ share) (size : ℕ) :
    49 * size ≤ 100 * (size * share / preciseUnit) + 100 := by
  have hscaled : size * (49 * 10 ^ 16) ≤ size * share := Nat.mul_le_mul_left size hshare
  rw [preciseUnit]
  omega

/-- At least 49 percent of every size, less one unit, is a share of at least 49 percent. -/
theorem forall_size_share_iff {share : ℕ} :
    (∀ size, size * preciseUnit ≤ maxUint256 →
        49 * size ≤ 100 * (size * share / preciseUnit) + 100) ↔
      49 * 10 ^ 16 ≤ share := by
  constructor
  · intro hsizes
    -- two whole units already lose more than the one unit that is granted
    have htwo := hsizes (2 * preciseUnit) (by decide)
    rw [Nat.mul_right_comm, Nat.mul_div_cancel _ preciseUnit_pos, preciseUnit] at htwo
    omega
  · exact fun hshare size _ => size_of_share hshare size

theorem forall_size_eq_zero_iff {share : ℕ} :
    (∀ size, size * preciseUnit ≤ maxUint256 → size * share / preciseUnit = 0) ↔
      share = 0 := by
  constructor
  · intro hsizes
    have hone := hsizes preciseUnit (by decide)
    rwa [Nat.mul_div_cancel_left _ preciseUnit_pos] at hone
  · rintro rfl size _
    rw [Nat.mul_zero, Nat.zero_div]

theorem forall_size_rest_eq_zero_iff {share : ℕ} (hshare : share ≤ preciseUnit) :
    (∀ size, size * preciseUnit ≤ maxUint256 → size - size * share / preciseUnit = 0) ↔
      share = preciseUnit := by
  constructor
  · intro hsizes
    have hone := hsizes preciseUnit (by decide)
    rw [Nat.mul_div_cancel_left _ preciseUnit_pos] at hone
    omega
  · rintro rfl size _
    rw [Nat.mul_div_cancel _ preciseUnit_pos, Nat.sub_self]

/-! ## Ratios -/

theorem share_of_ratio_iff {ratio : ℕ} :
    49 * 10 ^ 16 ≤ ratio * preciseUnit / (ratio + preciseUnit) ↔
      49 * preciseUnit ≤ 51 * ratio := by
  rw [Nat.le_div_iff_mul_le (Nat.add_pos_right _ preciseUnit_pos), preciseUnit]
  omega

/-- With a ratio of at most one, half of every size is left for Sushiswap. -/
theorem size_of_ratio_le {ratio : ℕ} (hratio : ratio ≤ preciseUnit) (size : ℕ) :
    2 * (size * (ratio * preciseUnit / (ratio + preciseUnit)) / preciseUnit) ≤ size := by
  have hhalf : 2 * (ratio * preciseUnit / (ratio + preciseUnit)) ≤ preciseUnit := by
    have hfloor := Nat.div_mul_le_self (ratio * preciseUnit) (ratio + preciseUnit)
    rw [preciseUnit] at hratio hfloor ⊢
    by_contra hlarge
    have hbound : (10 ^ 18 / 2 + 1) * (ratio + 10 ^ 18) ≤
        ratio * 10 ^ 18 / (ratio + 10 ^ 18) * (ratio + 10 ^ 18) :=
      Nat.mul_le_mul_right _ (by omega)
    omega
  generalize ratio * preciseUnit / (ratio + preciseUnit) = share at *
  have hscaled : size * (2 * share) ≤ size * preciseUnit := Nat.mul_le_mul_left size hhalf
  have hfloor := Nat.div_mul_le_self (size * share) preciseUnit
  rw [Nat.mul_left_comm] at hscaled
  rw [preciseUnit] at *
  omega

theorem share_of_ratio_eq_zero_iff {ratio : ℕ} :
    ratio * preciseUnit / (ratio + preciseUnit) = 0 ↔ ratio ≤ 1 := by
  rw [Nat.div_eq_zero_iff_lt (Nat.add_pos_right _ preciseUnit_pos), preciseUnit]
  omega

theorem share_of_ratio_lt {ratio : ℕ} :
    ratio * preciseUnit / (ratio + preciseUnit) < preciseUnit := by
  rw [Nat.div_lt_iff_lt_mul (Nat.add_pos_right _ preciseUnit_pos), preciseUnit]
  omega

/-- Rounding only lowers the ratio. -/
theorem twoHopRatio_mul_le (uniA uniB sushiA sushiB : ℕ) :
    twoHopRatio uniA uniB sushiA sushiB * ((uniA + uniB) * (sushiA * sushiB)) ≤
      preciseUnit * ((sushiA + sushiB) * (uniA * uniB)) := by
  rw [twoHopRatio]
  have hquotientA : (sushiA + sushiB) * preciseUnit / (uniA + uniB) * (uniA + uniB) ≤
      (sushiA + sushiB) * preciseUnit := Nat.div_mul_le_self _ _
  have hquotientB : uniA * preciseUnit / sushiA * sushiA ≤ uniA * preciseUnit :=
    Nat.div_mul_le_self _ _
  have hquotientC : uniB * preciseUnit / sushiB * sushiB ≤ uniB * preciseUnit :=
    Nat.div_mul_le_self _ _
  generalize (sushiA + sushiB) * preciseUnit / (uniA + uniB) = a at *
  generalize uniA * preciseUnit / sushiA = b at *
  generalize uniB * preciseUnit / sushiB = c at *
  generalize hunit : preciseUnit = unit at *
  have hpositive : 0 < unit * unit := Nat.mul_pos (hunit ▸ preciseUnit_pos) (hunit ▸ preciseUnit_pos)
  have hfloor : a * b / unit * c / unit * (unit * unit) ≤ a * b * c :=
    calc a * b / unit * c / unit * (unit * unit)
        = a * b / unit * c / unit * unit * unit := (Nat.mul_assoc _ _ _).symm
      _ ≤ a * b / unit * c * unit := Nat.mul_le_mul_right _ (Nat.div_mul_le_self _ _)
      _ = a * b / unit * unit * c := Nat.mul_right_comm _ _ _
      _ ≤ a * b * c := Nat.mul_le_mul_right _ (Nat.div_mul_le_self _ _)
  generalize a * b / unit * c / unit = ratio at *
  refine Nat.le_of_mul_le_mul_right ?_ hpositive
  calc ratio * ((uniA + uniB) * (sushiA * sushiB)) * (unit * unit)
      = ratio * (unit * unit) * ((uniA + uniB) * (sushiA * sushiB)) := Nat.mul_right_comm _ _ _
    _ ≤ a * b * c * ((uniA + uniB) * (sushiA * sushiB)) := Nat.mul_le_mul_right _ hfloor
    _ = a * (uniA + uniB) * (b * sushiA) * (c * sushiB) := by ring
    _ ≤ (sushiA + sushiB) * unit * (uniA * unit) * (uniB * unit) :=
        Nat.mul_le_mul (Nat.mul_le_mul hquotientA hquotientB) hquotientC
    _ = unit * ((sushiA + sushiB) * (uniA * uniB)) * (unit * unit) := by ring

theorem depths_le {deepA deepB shallowA shallowB : ℕ} (hpoolA : shallowA ≤ deepA)
    (hpoolB : shallowB ≤ deepB) :
    (deepA + deepB) * (shallowA * shallowB) ≤ (shallowA + shallowB) * (deepA * deepB) := by
  have hfirst : deepA * shallowA * shallowB ≤ deepA * shallowA * deepB :=
    Nat.mul_le_mul_left _ hpoolB
  have hsecond : deepB * shallowB * shallowA ≤ deepB * shallowB * deepA :=
    Nat.mul_le_mul_left _ hpoolA
  nlinarith

/-- Pools that are nowhere deeper give a ratio of at most one. -/
theorem twoHopRatio_le {uniA uniB sushiA sushiB : ℕ} (huniA : 0 < uniA) (huniB : 0 < uniB)
    (hpoolA : uniA ≤ sushiA) (hpoolB : uniB ≤ sushiB) :
    twoHopRatio uniA uniB sushiA sushiB ≤ preciseUnit := by
  have hsushiA : 0 < sushiA := huniA.trans_le hpoolA
  have hsushiB : 0 < sushiB := huniB.trans_le hpoolB
  have hdepths : 0 < (uniA + uniB) * (sushiA * sushiB) := by positivity
  apply Nat.le_of_mul_le_mul_right _ hdepths
  exact (twoHopRatio_mul_le uniA uniB sushiA sushiB).trans
    (Nat.mul_le_mul_left _ (depths_le hpoolA hpoolB))

/-- Where the depths themselves are less than two units of 18 decimals apart, no more than one
is left. -/
theorem twoHopRatio_le_one {uniA uniB sushiA sushiB : ℕ}
    (hdepths : preciseUnit * ((sushiA + sushiB) * (uniA * uniB)) <
      2 * ((uniA + uniB) * (sushiA * sushiB))) :
    twoHopRatio uniA uniB sushiA sushiB ≤ 1 := by
  apply Nat.le_of_lt_succ
  exact Nat.lt_of_mul_lt_mul_right ((twoHopRatio_mul_le _ _ _ _).trans_lt hdepths)

/-- If nothing is left of the first quotient, nothing is left of the ratio. -/
theorem twoHopRatio_eq_zero {uniA uniB sushiA sushiB : ℕ}
    (hscale : preciseUnit * (sushiA + sushiB) < uniA + uniB) :
    twoHopRatio uniA uniB sushiA sushiB = 0 := by
  have hnone : (sushiA + sushiB) * preciseUnit / (uniA + uniB) = 0 :=
    Nat.div_eq_of_lt (Nat.mul_comm _ _ ▸ hscale)
  rw [twoHopRatio, hnone, Nat.zero_mul, Nat.zero_div, Nat.zero_mul, Nat.zero_div]

/-- A first quotient of `kept` units loses at most one part in `kept + 1`, and so does its
product with the second; the rest loses less than one part in `10 ^ 18`.  The ratio is precise
enough if the depths make up for both. -/
theorem le_twoHopRatio {uniA uniB sushiA sushiB kept : ℕ} (hsushiA : 0 < sushiA)
    (hsushiB : 0 < sushiB) (hpoolA : sushiA ≤ uniA) (hpoolB : sushiB ≤ uniB)
    (hkept : 0 < kept) (hscale : kept * (uniA + uniB) ≤ preciseUnit * (sushiA + sushiB))
    (hmargin : 961 * (kept + 1) ^ 2 * ((uniA + uniB) * (sushiA * sushiB)) ≤
      1000 * kept ^ 2 * ((sushiA + sushiB) * (uniA * uniB))) :
    49 * preciseUnit ≤ 51 * twoHopRatio uniA uniB sushiA sushiB := by
  have huni : 0 < uniA + uniB := by omega
  have hdeep : 0 < (uniA + uniB) * (sushiA * sushiB) := by positivity
  rw [twoHopRatio]
  have hleastA : kept ≤ (sushiA + sushiB) * preciseUnit / (uniA + uniB) := by
    rw [Nat.le_div_iff_mul_le huni, Nat.mul_comm (sushiA + sushiB)]
    exact hscale
  have hleastB : preciseUnit ≤ uniA * preciseUnit / sushiA := by
    rw [Nat.le_div_iff_mul_le hsushiA, Nat.mul_comm]
    exact Nat.mul_le_mul_right _ hpoolA
  have hleastC : preciseUnit ≤ uniB * preciseUnit / sushiB := by
    rw [Nat.le_div_iff_mul_le hsushiB, Nat.mul_comm]
    exact Nat.mul_le_mul_right _ hpoolB
  -- each floor, as a bound on its relative error
  have herrorA := kept_mul_le huni hleastA
  have herrorB := kept_mul_le hsushiA hleastB
  have herrorC := kept_mul_le hsushiB hleastC
  generalize (sushiA + sushiB) * preciseUnit / (uniA + uniB) = a at *
  generalize uniA * preciseUnit / sushiA = b at *
  generalize uniB * preciseUnit / sushiB = c at *
  have hleast : kept ≤ a * b / preciseUnit := by
    rw [Nat.le_div_iff_mul_le preciseUnit_pos]
    exact Nat.mul_le_mul hleastA hleastB
  have herror := kept_mul_le preciseUnit_pos hleast
  generalize a * b / preciseUnit = product at *
  have hlast := Nat.lt_mul_div_succ (product * c) preciseUnit_pos
  generalize product * c / preciseUnit = ratio at *
  have hquotients : kept * ((sushiA + sushiB) * (uniA * uniB)) * preciseUnit ^ 5 ≤
      (kept + 1) * (preciseUnit + 1) ^ 2 * (a * b) * c * ((uniA + uniB) * (sushiA * sushiB)) :=
    calc kept * ((sushiA + sushiB) * (uniA * uniB)) * preciseUnit ^ 5
        = kept * ((sushiA + sushiB) * preciseUnit) * (preciseUnit * (uniA * preciseUnit)) *
          (preciseUnit * (uniB * preciseUnit)) := by ring
      _ ≤ (kept + 1) * a * (uniA + uniB) * ((preciseUnit + 1) * b * sushiA) *
          ((preciseUnit + 1) * c * sushiB) :=
        Nat.mul_le_mul (Nat.mul_le_mul herrorA herrorB) herrorC
      _ = (kept + 1) * (preciseUnit + 1) ^ 2 * (a * b) * c *
          ((uniA + uniB) * (sushiA * sushiB)) := by ring
  have hratio : 961 * preciseUnit ^ 5 ≤
      1000 * (preciseUnit + 1) ^ 2 * preciseUnit * (preciseUnit * (ratio + 1)) := by
    have hcommon : 0 < (kept + 1) ^ 2 * ((uniA + uniB) * (sushiA * sushiB)) := by positivity
    refine Nat.le_of_mul_le_mul_right ?_ hcommon
    generalize (uniA + uniB) * (sushiA * sushiB) = depths at *
    generalize (sushiA + sushiB) * (uniA * uniB) = deeper at *
    calc 961 * preciseUnit ^ 5 * ((kept + 1) ^ 2 * depths)
        = preciseUnit ^ 5 * (961 * (kept + 1) ^ 2 * depths) := by ring
      _ ≤ preciseUnit ^ 5 * (1000 * kept ^ 2 * deeper) := Nat.mul_le_mul_left _ hmargin
      _ = 1000 * kept * (kept * deeper * preciseUnit ^ 5) := by ring
      _ ≤ 1000 * kept * ((kept + 1) * (preciseUnit + 1) ^ 2 * (a * b) * c * depths) :=
        Nat.mul_le_mul_left _ hquotients
      _ = 1000 * (kept + 1) * (preciseUnit + 1) ^ 2 * c * depths * (kept * (a * b)) := by ring
      _ ≤ 1000 * (kept + 1) * (preciseUnit + 1) ^ 2 * c * depths *
          ((kept + 1) * product * preciseUnit) := Nat.mul_le_mul_left _ herror
      _ = 1000 * (preciseUnit + 1) ^ 2 * preciseUnit * ((kept + 1) ^ 2 * depths) *
          (product * c) := by ring
      _ ≤ 1000 * (preciseUnit + 1) ^ 2 * preciseUnit * ((kept + 1) ^ 2 * depths) *
          (preciseUnit * (ratio + 1)) := Nat.mul_le_mul_left _ hlast.le
      _ = 1000 * (preciseUnit + 1) ^ 2 * preciseUnit * (preciseUnit * (ratio + 1)) *
          ((kept + 1) ^ 2 * depths) := by ring
  rw [preciseUnit] at hratio ⊢
  omega

/-! ## Splitting by depth -/

/-- The two tokens of each pool on the path; the depth is that of the second. -/
def hops : List Address → List (Address × Address)
  | [token, target] => [(token, target)]
  | token :: middle :: target :: _ => [(token, middle), (target, middle)]
  | _ => []

/-- The balance that is read for a hop, of the zero address if there is no pair. -/
def Venues.depth (venues : Venues) (getPair : Address → Address → Address)
    (hop : Address × Address) : ℕ :=
  venues.getTokenBalanceInPair getPair hop.1 hop.2

/-- There is a pair for every hop, and none is empty. -/
def Venues.Covers (venues : Venues) (getPair : Address → Address → Address)
    (path : List Address) : Prop :=
  ∀ hop ∈ hops path, getPair hop.1 hop.2 ≠ zeroAddress ∧ 0 < venues.depth getPair hop

/-- Every pool of one venue holds at least as much as that of the other. -/
def Venues.Deeper (venues : Venues) (deep shallow : Address → Address → Address)
    (path : List Address) : Prop :=
  ∀ hop ∈ hops path, venues.depth shallow hop ≤ venues.depth deep hop

instance (getPair : Address → Address → Address) :
    Decidable (venues.Covers getPair path) :=
  inferInstanceAs (Decidable (∀ hop ∈ hops path, _ ∧ _))

instance (deep shallow : Address → Address → Address) :
    Decidable (venues.Deeper deep shallow path) :=
  inferInstanceAs (Decidable (∀ hop ∈ hops path, _ ≤ _))

/-- No part of a size is lost, the deeper venue gets its half but for one percent, and a
venue without a pool gets nothing. -/
structure SplitsByDepth (venues : Venues) (path : List Address) (size : ℕ)
    (info : TradeInfo) : Prop where
  total : info.uniSize + info.sushiSize = size
  uni : path.length = 3 → venues.Covers venues.uniGetPair path →
    venues.Covers venues.sushiGetPair path →
    venues.Deeper venues.uniGetPair venues.sushiGetPair path →
    49 * size ≤ 100 * info.uniSize + 100
  sushi : path.length = 3 → venues.Covers venues.uniGetPair path →
    venues.Covers venues.sushiGetPair path →
    venues.Deeper venues.sushiGetPair venues.uniGetPair path →
    49 * size ≤ 100 * info.sushiSize + 100
  noUni : venues.Covers venues.sushiGetPair path →
    ¬venues.Covers venues.uniGetPair path → info.uniSize = 0
  noSushi : venues.Covers venues.uniGetPair path →
    ¬venues.Covers venues.sushiGetPair path → info.sushiSize = 0

/-- What the pools of a venue hold together. -/
def Venues.sum (venues : Venues) (getPair : Address → Address → Address)
    (path : List Address) : ℕ :=
  ((hops path).map (venues.depth getPair)).sum

/-- The product of what they hold. -/
def Venues.product (venues : Venues) (getPair : Address → Address → Address)
    (path : List Address) : ℕ :=
  ((hops path).map (venues.depth getPair)).prod

/-- The documented ratio of a first venue to a second, as a fraction of two products. -/
def Venues.depthRatio (venues : Venues) (first second : Address → Address → Address)
    (path : List Address) : ℕ × ℕ :=
  (venues.sum second path * venues.product first path,
    venues.sum first path * venues.product second path)

/-- The pools of Uniswap hold at most `2 * 10 ^ 16` times as much as those of Sushiswap; or
at most `10 ^ 18` times as much, and four times as much of the trade belongs there. -/
def Venues.Comparable (venues : Venues) (path : List Address) : Prop :=
  let (uni, sushi) := venues.depthRatio venues.uniGetPair venues.sushiGetPair path
  venues.sum venues.uniGetPair path ≤ 2 * 10 ^ 16 * venues.sum venues.sushiGetPair path ∨
    venues.sum venues.uniGetPair path ≤ 10 ^ 18 * venues.sum venues.sushiGetPair path ∧
      4 * sushi ≤ uni

/-- What is read for Uniswap is nothing for some hop, or so little that nothing of the trade
belongs there. -/
def Venues.NegligibleUni (venues : Venues) (path : List Address) : Prop :=
  let (uni, sushi) := venues.depthRatio venues.uniGetPair venues.sushiGetPair path
  if path.length = 2 then
    venues.sum venues.uniGetPair path * preciseUnit <
      venues.sum venues.uniGetPair path + venues.sum venues.sushiGetPair path
  else (∃ hop ∈ hops path, venues.depth venues.uniGetPair hop = 0) ∨
    preciseUnit * uni < 2 * sushi

/-- The depths are not too far apart for the digits of their quotients, and where a venue has
no pair the zero address holds nothing that counts. -/
structure KeepsDepth (venues : Venues) (path : List Address) : Prop where
  precise : path.length = 3 → venues.Covers venues.uniGetPair path →
    venues.Covers venues.sushiGetPair path →
    venues.Deeper venues.uniGetPair venues.sushiGetPair path → venues.Comparable path
  noUni : venues.Covers venues.sushiGetPair path →
    ¬venues.Covers venues.uniGetPair path → venues.NegligibleUni path
  noSushi : venues.Covers venues.uniGetPair path →
    ¬venues.Covers venues.sushiGetPair path →
    ∃ hop ∈ hops path, venues.depth venues.sushiGetPair hop = 0

/-- What cannot be done without: with one hop all of it, with two hops a first quotient that is
not rounded to nothing. -/
structure LeastDepth (venues : Venues) (path : List Address) : Prop where
  precise : path.length = 3 → venues.Covers venues.uniGetPair path →
    venues.Covers venues.sushiGetPair path →
    venues.Deeper venues.uniGetPair venues.sushiGetPair path →
    venues.sum venues.uniGetPair path ≤ 10 ^ 18 * venues.sum venues.sushiGetPair path
  noUni : path.length = 2 → venues.Covers venues.sushiGetPair path →
    ¬venues.Covers venues.uniGetPair path → venues.NegligibleUni path
  noSushi : venues.Covers venues.uniGetPair path →
    ¬venues.Covers venues.sushiGetPair path →
    ∃ hop ∈ hops path, venues.depth venues.sushiGetPair hop = 0

section

variable (getPair : Address → Address → Address) (token middle target : Address)

@[simp]
theorem sum_twoHops : venues.sum getPair [token, middle, target] =
    venues.depth getPair (token, middle) + venues.depth getPair (target, middle) := by
  simp [Venues.sum, hops]

@[simp]
theorem product_twoHops : venues.product getPair [token, middle, target] =
    venues.depth getPair (token, middle) * venues.depth getPair (target, middle) := by
  simp [Venues.product, hops]

@[simp]
theorem sum_oneHop : venues.sum getPair [token, target] =
    venues.depth getPair (token, target) := by
  simp [Venues.sum, hops]

theorem covers_twoHops : venues.Covers getPair [token, middle, target] ↔
    (getPair token middle ≠ zeroAddress ∧ 0 < venues.depth getPair (token, middle)) ∧
      getPair target middle ≠ zeroAddress ∧ 0 < venues.depth getPair (target, middle) := by
  simp [Venues.Covers, hops]

theorem deeper_twoHops (other : Address → Address → Address) :
    venues.Deeper other getPair [token, middle, target] ↔
      venues.depth getPair (token, middle) ≤ venues.depth other (token, middle) ∧
        venues.depth getPair (target, middle) ≤ venues.depth other (target, middle) := by
  simp [Venues.Deeper, hops]

end

/-- The rounded ratio of a path with two hops. -/
def Venues.uniRatio (venues : Venues) (token middle target : Address) : ℕ :=
  twoHopRatio (venues.depth venues.uniGetPair (token, middle))
    (venues.depth venues.uniGetPair (target, middle))
    (venues.depth venues.sushiGetPair (token, middle))
    (venues.depth venues.sushiGetPair (target, middle))

theorem uniShare_of_covers {token middle target : Address}
    (huni : venues.Covers venues.uniGetPair [token, middle, target])
    (hsushi : venues.Covers venues.sushiGetPair [token, middle, target]) :
    venues.uniShare [token, middle, target] = venues.uniRatio token middle target * preciseUnit /
      (venues.uniRatio token middle target + preciseUnit) := by
  obtain ⟨⟨-, huniA⟩, -, huniB⟩ := covers_twoHops _ _ _ _ |>.mp huni
  obtain ⟨⟨-, hsushiA⟩, -, hsushiB⟩ := covers_twoHops _ _ _ _ |>.mp hsushi
  simp only [Venues.depth] at huniA huniB hsushiA hsushiB
  simp only [Venues.uniShare, Venues.uniRatio, Venues.depth]
  rw [if_neg (by omega), if_neg (by omega)]

theorem uniRatio_le {token middle target : Address}
    (huni : venues.Covers venues.uniGetPair [token, middle, target])
    (hdeeper : venues.Deeper venues.sushiGetPair venues.uniGetPair [token, middle, target]) :
    venues.uniRatio token middle target ≤ preciseUnit := by
  obtain ⟨⟨-, huniA⟩, -, huniB⟩ := covers_twoHops _ _ _ _ |>.mp huni
  obtain ⟨hpoolA, hpoolB⟩ := deeper_twoHops _ _ _ _ _ |>.mp hdeeper
  exact twoHopRatio_le huniA huniB hpoolA hpoolB

theorem le_uniRatio {token middle target : Address}
    (hsushi : venues.Covers venues.sushiGetPair [token, middle, target])
    (hdeeper : venues.Deeper venues.uniGetPair venues.sushiGetPair [token, middle, target])
    (hcomparable : venues.Comparable [token, middle, target]) :
    49 * preciseUnit ≤ 51 * venues.uniRatio token middle target := by
  obtain ⟨⟨-, hsushiA⟩, -, hsushiB⟩ := covers_twoHops _ _ _ _ |>.mp hsushi
  obtain ⟨hpoolA, hpoolB⟩ := deeper_twoHops _ _ _ _ _ |>.mp hdeeper
  have hdepths := depths_le hpoolA hpoolB
  simp only [Venues.Comparable, Venues.depthRatio, sum_twoHops, product_twoHops] at hcomparable
  rcases hcomparable with hscale | ⟨hscale, hmargin⟩
  · refine le_twoHopRatio hsushiA hsushiB hpoolA hpoolB (by decide : 0 < 50) ?_ ?_
    · rw [preciseUnit]
      omega
    · omega
  · refine le_twoHopRatio hsushiA hsushiB hpoolA hpoolB Nat.one_pos ?_ ?_
    · rw [Nat.one_mul]
      exact hscale
    · omega

theorem uniShare_oneHop_eq_zero_iff {token target : Address}
    (hsushi : venues.Covers venues.sushiGetPair [token, target]) :
    venues.uniShare [token, target] = 0 ↔ venues.NegligibleUni [token, target] := by
  simp only [Venues.Covers, hops, List.forall_mem_cons, List.not_mem_nil,
    false_implies, implies_true, and_true] at hsushi
  have hpositive := hsushi.2
  simp only [Venues.uniShare, Venues.NegligibleUni, sum_oneHop, List.length_cons, List.length_nil,
    if_true]
  simp only [Venues.depth] at hpositive ⊢
  rw [Nat.div_eq_zero_iff_lt (by omega)]

theorem uniShare_eq_zero (hpath : path.length = 2 ∨ path.length = 3)
    (hsushi : venues.Covers venues.sushiGetPair path) (hnegligible : venues.NegligibleUni path) :
    venues.uniShare path = 0 := by
  match path, hpath with
  | [token, target], _ => exact (uniShare_oneHop_eq_zero_iff hsushi).mpr hnegligible
  | [token, middle, target], _ =>
      obtain ⟨⟨-, hsushiA⟩, -, hsushiB⟩ := covers_twoHops _ _ _ _ |>.mp hsushi
      simp only [Venues.NegligibleUni, Venues.depthRatio, sum_twoHops, product_twoHops, hops,
        List.length_cons, List.length_nil, List.exists_mem_cons_iff, List.not_mem_nil, false_and,
        exists_false, or_false] at hnegligible
      rw [if_neg (by decide)] at hnegligible
      simp only [Venues.uniShare]
      split
      · rfl
      · rename_i hdeep
        simp only [Venues.depth] at hnegligible hsushiA hsushiB
        rw [if_neg (by omega), share_of_ratio_eq_zero_iff]
        exact twoHopRatio_le_one (hnegligible.resolve_left hdeep)

theorem uniShare_eq_unit_iff (hpath : path.length = 2 ∨ path.length = 3)
    (huni : venues.Covers venues.uniGetPair path) :
    venues.uniShare path = preciseUnit ↔
      ∃ hop ∈ hops path, venues.depth venues.sushiGetPair hop = 0 := by
  match path, hpath with
  | [token, target], _ =>
      simp only [Venues.Covers, hops, List.forall_mem_cons, List.not_mem_nil,
        false_implies, implies_true, and_true] at huni
      have hpositive := huni.2
      simp only [Venues.uniShare, hops, List.exists_mem_cons_iff, List.not_mem_nil,
        false_and, exists_false, or_false]
      simp only [Venues.depth] at hpositive ⊢
      constructor
      · intro hwhole
        by_contra hrest
        refine (Nat.div_lt_of_lt_mul ?_).ne hwhole
        exact Nat.mul_lt_mul_of_pos_right (by omega) preciseUnit_pos
      · intro hempty
        rw [hempty, Nat.add_zero, Nat.mul_div_cancel_left _ hpositive]
  | [token, middle, target], _ =>
      simp only [Venues.Covers, hops, List.forall_mem_cons, List.not_mem_nil,
        false_implies, implies_true, and_true] at huni
      obtain ⟨⟨-, huniA⟩, -, huniB⟩ := huni
      simp only [Venues.uniShare, hops, List.exists_mem_cons_iff, List.not_mem_nil,
        false_and, exists_false, or_false]
      simp only [Venues.depth] at huniA huniB ⊢
      rw [if_neg (by omega)]
      split
      · rename_i hempty
        exact iff_of_true rfl hempty
      · rename_i hdeep
        exact iff_of_false share_of_ratio_lt.ne hdeep

/-- Where the depths are kept, trades of all sizes are split by depth; and trades of all sizes
are not, unless the least of it holds. -/
theorem splitsByDepth_of_keepsDepth (hpath : path.length = 2 ∨ path.length = 3)
    (hfits : ∃ info, getTradeSizes venues path 0 = .ok info) :
    (KeepsDepth venues path → ∀ size info, getTradeSizes venues path size = .ok info →
        SplitsByDepth venues path size info) ∧
      ((∀ size info, getTradeSizes venues path size = .ok info →
        SplitsByDepth venues path size info) → LeastDepth venues path) := by
  obtain ⟨_, hzero⟩ := hfits
  have hsizes : ∀ size, size * preciseUnit ≤ maxUint256 →
      getTradeSizes venues path size = .ok (shareOf size (venues.uniShare path)) :=
    (getTradeSizes_eq_ok hpath hzero).2
  constructor
  · intro hkeeps size info hcall
    obtain ⟨rfl, -⟩ := getTradeSizes_eq_ok hpath hcall
    have hshare : size * venues.uniShare path ≤ size * preciseUnit :=
      Nat.mul_le_mul_left size uniShare_le
    have hle : size * venues.uniShare path / preciseUnit ≤ size :=
      Nat.div_le_of_le_mul (Nat.mul_comm preciseUnit size ▸ hshare)
    refine ⟨Nat.add_sub_cancel' hle, fun hlength huni hsushi hdeeper => ?_,
      fun hlength huni hsushi hdeeper => ?_, fun hsushi huni => ?_, fun huni hsushi => ?_⟩
    · obtain ⟨token, middle, target, rfl⟩ := List.length_eq_three.mp hlength
      have hprecise := le_uniRatio hsushi hdeeper (hkeeps.precise rfl huni hsushi hdeeper)
      rw [← share_of_ratio_iff, ← uniShare_of_covers huni hsushi] at hprecise
      exact size_of_share hprecise size
    · obtain ⟨token, middle, target, rfl⟩ := List.length_eq_three.mp hlength
      have hhalf := size_of_ratio_le (uniRatio_le huni hdeeper) size
      rw [← uniShare_of_covers huni hsushi] at hhalf
      change 49 * size ≤ 100 * (size - size * venues.uniShare _ / preciseUnit) + 100
      omega
    · rw [uniShare_eq_zero hpath hsushi (hkeeps.noUni hsushi huni), shareOf_zero]
    · have hwhole := (uniShare_eq_unit_iff hpath huni).mpr (hkeeps.noSushi huni hsushi)
      rw [hwhole, shareOf_unit]
  · intro hsplits
    refine ⟨fun hlength huni hsushi hdeeper => ?_, fun hlength hsushi huni => ?_,
      fun huni hsushi => ?_⟩
    · obtain ⟨token, middle, target, rfl⟩ := List.length_eq_three.mp hlength
      have hshare : 49 * 10 ^ 16 ≤ venues.uniShare [token, middle, target] :=
        forall_size_share_iff.mp fun size hsize =>
          (hsplits size _ (hsizes size hsize)).uni rfl huni hsushi hdeeper
      rw [uniShare_of_covers huni hsushi, share_of_ratio_iff] at hshare
      by_contra hscale
      rw [sum_twoHops, sum_twoHops, not_le] at hscale
      have hnone : venues.uniRatio token middle target = 0 := twoHopRatio_eq_zero hscale
      rw [hnone] at hshare
      exact absurd hshare (by decide)
    · obtain ⟨token, target, rfl⟩ := List.length_eq_two.mp hlength
      rw [← uniShare_oneHop_eq_zero_iff hsushi, ← forall_size_eq_zero_iff]
      intro size hsize
      exact (hsplits size _ (hsizes size hsize)).noUni hsushi huni
    · rw [← uniShare_eq_unit_iff hpath huni, ← forall_size_rest_eq_zero_iff uniShare_le]
      intro size hsize
      exact (hsplits size _ (hsizes size hsize)).noSushi huni hsushi

/-- A hundred tokens in the pools of Uniswap, Sushiswap as given, and thirty tokens that
were sent to the zero address. -/
def sampleVenues (sushiPair sushiBalance uniBalance : ℕ) : Venues where
  uniGetPair _ _ := 5
  sushiGetPair _ _ := sushiPair
  balanceOf _ holder :=
    if holder = 5 then uniBalance
    else if holder = 6 then sushiBalance
    else if holder = zeroAddress then 30 * 10 ^ 18
    else 0

theorem splitsByDepth_sampleVenues :
    (∀ size info, getTradeSizes (sampleVenues 6 (10 ^ 20) (10 ^ 20)) [1, 2, 3] size = .ok info →
      SplitsByDepth (sampleVenues 6 (10 ^ 20) (10 ^ 20)) [1, 2, 3] size info) ∧
      LeastDepth (sampleVenues 6 (10 ^ 20) (10 ^ 20)) [1, 2, 3] := by
  obtain ⟨henough, hleast⟩ :=
    @splitsByDepth_of_keepsDepth (sampleVenues 6 (10 ^ 20) (10 ^ 20)) [1, 2, 3] (Or.inr rfl)
      ⟨⟨0, 0⟩, by decide +kernel⟩
  have hsplits := henough ⟨fun _ _ _ _ => Or.inl (by decide +kernel),
    fun _ huni => absurd (by decide +kernel) huni,
    fun _ hsushi => absurd (by decide +kernel) hsushi⟩
  exact ⟨hsplits, hleast hsplits⟩

/-- Pools that are `10 ^ 30` times as deep get nothing, and a venue without a pair gets a
share of the trade. -/
theorem not_splitsByDepth :
    getTradeSizes (sampleVenues 6 1 (10 ^ 30)) [1, 2, 3] 1000 = .ok ⟨0, 1000⟩ ∧
      ¬SplitsByDepth (sampleVenues 6 1 (10 ^ 30)) [1, 2, 3] 1000 ⟨0, 1000⟩ ∧
      getTradeSizes (sampleVenues zeroAddress 0 (70 * 10 ^ 18)) [1, 2] 1000 =
        .ok ⟨700, 300⟩ ∧
      ¬SplitsByDepth (sampleVenues zeroAddress 0 (70 * 10 ^ 18)) [1, 2] 1000 ⟨700, 300⟩ := by
  refine ⟨by decide +kernel, fun hsplits => ?_, by decide +kernel, fun hsplits => ?_⟩
  · have huni := hsplits.uni rfl (by decide +kernel) (by decide +kernel) (by decide +kernel)
    exact absurd huni (by decide)
  · have hnone := hsplits.noSushi (by decide +kernel) (by decide +kernel)
    exact absurd hnone (by decide)

end SetProtocol.AMMSplitter
