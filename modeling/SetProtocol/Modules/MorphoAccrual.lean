import SetProtocol.Library.Compounding
import SetProtocol.Library.PooledShares
import SetProtocol.Modules.MorphoLeverageModule

/-!
# Interest on a Morpho market

The balances that the leverage module reads include the interest since the market was
touched last.  It is compounded by a Taylor polynomial, added to what is borrowed and to
what is supplied, and the market's fee is paid out of it in new supply shares.
-/

namespace SetProtocol.MorphoLeverageModule

open Transaction Compounding PooledShares

variable {P : Type} {morpho : Morpho P} {protocols : P} {params : MarketParams}
variable {market after : Market} {timestamp rate elapsed interest : ℕ}

/-! ## Balances of an account -/

def toAssetsDown (shares totalAssets totalShares : ℕ) : Outcome ℕ := do
  let total ← SafeMath.add totalAssets virtualAssets
  let allShares ← SafeMath.add totalShares virtualShares
  mulDivDown shares total allShares

def expectedSupplyAssets (morpho : Morpho P) (protocols : P) (params : MarketParams)
    (timestamp : ℕ) (user : Address) : Outcome ℕ := do
  let supplyShares := (morpho.position protocols params user).supplyShares
  let market ← expectedMarketBalances morpho protocols params timestamp
  toAssetsDown supplyShares market.totalSupplyAssets market.totalSupplyShares

def expectedBorrowAssets (morpho : Morpho P) (protocols : P) (params : MarketParams)
    (timestamp : ℕ) (user : Address) : Outcome ℕ := do
  let borrowShares := (morpho.position protocols params user).borrowShares
  let market ← expectedMarketBalances morpho protocols params timestamp
  toAssetsUp borrowShares market.totalBorrowAssets market.totalBorrowShares

/-- What supply shares are worth in a market. -/
def supplied (market : Market) (shares : ℕ) : ℕ :=
  shares * (market.totalSupplyAssets + virtualAssets) /
    (market.totalSupplyShares + virtualShares)

/-- What borrow shares owe in a market. -/
def owed (market : Market) (shares : ℕ) : ℕ :=
  shares * (market.totalBorrowAssets + virtualAssets) ⌈/⌉
    (market.totalBorrowShares + virtualShares)

theorem mulDivUp_eq_ok {x y d result : ℕ} (hd : 0 < d) :
    mulDivUp x y d = .ok result ↔ x * y + (d - 1) ≤ maxUint256 ∧ x * y ⌈/⌉ d = result := by
  simp only [mulDivUp, bind_eq_ok, SafeMath.mul_eq_ok, SafeMath.sub_eq_ok, SafeMath.add_eq_ok,
    SafeMath.div_eq_ok]
  rw [Nat.ceilDiv_eq_add_pred_div]
  have hsum : x * y + (d - 1) = x * y + d - 1 := by omega
  constructor
  · rintro ⟨_, ⟨-, rfl⟩, _, ⟨-, rfl⟩, _, ⟨hfits, rfl⟩, -, rfl⟩
    exact ⟨hfits, by rw [hsum]⟩
  · rintro ⟨hfits, rfl⟩
    exact ⟨_, ⟨by omega, rfl⟩, _, ⟨hd, rfl⟩, _, ⟨hfits, rfl⟩, hd, by rw [hsum]⟩

theorem toAssetsDown_eq_ok {shares assets : ℕ}
    (hcall : toAssetsDown shares market.totalSupplyAssets market.totalSupplyShares =
      .ok assets) : assets = supplied market shares := by
  simp only [toAssetsDown, mulDivDown, bind_eq_ok, SafeMath.add_eq_ok, SafeMath.mul_eq_ok,
    SafeMath.div_eq_ok] at hcall
  obtain ⟨_, ⟨-, rfl⟩, _, ⟨-, rfl⟩, _, ⟨-, rfl⟩, -, rfl⟩ := hcall
  rfl

theorem toAssetsUp_eq_ok {shares assets : ℕ}
    (hcall : toAssetsUp shares market.totalBorrowAssets market.totalBorrowShares =
      .ok assets) : assets = owed market shares := by
  have hpositive : 0 < market.totalBorrowShares + virtualShares :=
    Nat.add_pos_right _ (by decide)
  simp only [toAssetsUp, bind_eq_ok, SafeMath.add_eq_ok] at hcall
  obtain ⟨_, ⟨-, rfl⟩, _, ⟨-, rfl⟩, hup⟩ := hcall
  exact ((mulDivUp_eq_ok hpositive).mp hup).2.symm

/-! ## The interest -/

theorem wTaylorCompounded_eq_ok {x n result : ℕ}
    (hcall : wTaylorCompounded x n = .ok result) : result = taylorDown wad (x * n) := by
  simp only [wTaylorCompounded, mulDivDown, bind_eq_ok, SafeMath.add_eq_ok,
    SafeMath.mul_eq_ok, SafeMath.div_eq_ok] at hcall
  obtain ⟨_, ⟨-, rfl⟩, _, ⟨_, ⟨-, rfl⟩, -, rfl⟩, _, ⟨_, ⟨-, rfl⟩, -, rfl⟩, _, ⟨-, rfl⟩, -,
    rfl⟩ := hcall
  rfl

theorem wMulDown_eq_ok {x y result : ℕ} (hcall : wMulDown x y = .ok result) :
    result = x * y / wad := by
  simp only [wMulDown, mulDivDown, bind_eq_ok, SafeMath.mul_eq_ok, SafeMath.div_eq_ok] at hcall
  obtain ⟨_, ⟨-, rfl⟩, -, rfl⟩ := hcall
  rfl

theorem toSharesDown_eq_ok {assets totalAssets totalShares result : ℕ}
    (hcall : toSharesDown assets totalAssets totalShares = .ok result) :
    result = assets * (totalShares + virtualShares) / (totalAssets + virtualAssets) := by
  simp only [toSharesDown, mulDivDown, bind_eq_ok, SafeMath.add_eq_ok, SafeMath.mul_eq_ok,
    SafeMath.div_eq_ok] at hcall
  obtain ⟨_, ⟨-, rfl⟩, _, ⟨-, rfl⟩, _, ⟨-, rfl⟩, -, rfl⟩ := hcall
  rfl

theorem toUint128_eq_ok {x result : ℕ} :
    toUint128 x = .ok result ↔ x < 2 ^ 128 ∧ x = result := by
  simp only [toUint128, bind_eq_ok, require_eq_ok, pure_eq_ok]
  exact exists_const Unit

/-- The interest that a rate gives over a time. -/
def interestOf (market : Market) (rate elapsed : ℕ) : ℕ :=
  market.totalBorrowAssets * taylorDown wad (rate * elapsed) / wad

/-- The market's part of the interest, and the shares it is paid in. -/
def feeOf (market : Market) (interest : ℕ) : ℕ := interest * market.fee / wad

def feeSharesOf (market : Market) (interest : ℕ) : ℕ :=
  feeShares (market.totalSupplyAssets + virtualAssets + interest)
    (market.totalSupplyShares + virtualShares) (feeOf market interest)

/-- Nothing wraps: the contract keeps these numbers in 128 bits. -/
structure Roomy (market : Market) (interest : ℕ) : Prop where
  supplyAssets : market.totalSupplyAssets + interest < 2 ^ 128
  borrowAssets : market.totalBorrowAssets + interest < 2 ^ 128
  supplyShares : market.totalSupplyShares + feeSharesOf market interest < 2 ^ 128

/-- Everybody's balance has followed the interest. -/
structure Accrued (market after : Market) (interest : ℕ) : Prop where
  borrowAssets : after.totalBorrowAssets = market.totalBorrowAssets + interest
  supplyAssets : after.totalSupplyAssets = market.totalSupplyAssets + interest
  borrowShares : after.totalBorrowShares = market.totalBorrowShares
  supplyShares : after.totalSupplyShares =
    market.totalSupplyShares + feeSharesOf market interest

theorem addUint128_of_lt {a b : ℕ} (hfits : a + b < 2 ^ 128) : addUint128 a b = a + b :=
  Nat.mod_eq_of_lt hfits

theorem subUint256_of_le {a b : ℕ} (hle : b ≤ a) (hfits : a < 2 ^ 256) :
    subUint256 a b = a - b := by
  have hsum : a + 2 ^ 256 - b = a - b + 2 ^ 256 := by omega
  rw [subUint256, hsum, Nat.add_mod_right, Nat.mod_eq_of_lt (by omega)]

theorem feeSharesOf_of_no_fee (hfee : market.fee = 0) : feeSharesOf market interest = 0 := by
  rw [feeSharesOf, feeOf, hfee, Nat.mul_zero, Nat.zero_div, feeShares, Nat.zero_mul,
    Nat.zero_div]

theorem feeOf_le (hfee : market.fee ≤ wad) : feeOf market interest ≤ interest := by
  apply Nat.div_le_of_le_mul
  rw [Nat.mul_comm]
  exact Nat.mul_le_mul_right _ hfee

theorem accrueFeeShares_eq_ok (hfee : market.fee ≤ wad)
    (hfits : market.totalSupplyAssets + interest < 2 ^ 128)
    (hshares : market.totalSupplyShares + feeSharesOf market interest < 2 ^ 128)
    {borrowAssets : ℕ}
    (hcall : accrueFeeShares
      { market with
        totalBorrowAssets := borrowAssets
        totalSupplyAssets := market.totalSupplyAssets + interest } interest = .ok after) :
    after = { market with
      totalBorrowAssets := borrowAssets
      totalSupplyAssets := market.totalSupplyAssets + interest
      totalSupplyShares := market.totalSupplyShares + feeSharesOf market interest } := by
  unfold accrueFeeShares at hcall
  split at hcall
  · simp only [bind_eq_ok, toUint128_eq_ok, pure_eq_ok] at hcall
    obtain ⟨feeAmount, hfeeAmount, minted, hminted, _, ⟨-, rfl⟩, rfl⟩ := hcall
    have hamount : feeAmount = feeOf market interest := wMulDown_eq_ok hfeeAmount
    have hle : feeOf market interest ≤ market.totalSupplyAssets + interest :=
      (feeOf_le hfee).trans (Nat.le_add_left _ _)
    have hpool : market.totalSupplyAssets + interest - feeOf market interest + virtualAssets =
        market.totalSupplyAssets + virtualAssets + interest - feeOf market interest := by
      omega
    have hmintedShares : minted = feeSharesOf market interest := by
      rw [toSharesDown_eq_ok hminted, hamount,
        subUint256_of_le hle (hfits.trans (by decide)), hpool]
      rfl
    rw [hmintedShares, addUint128_of_lt hshares]
  · next hnone =>
    obtain rfl := pure_eq_ok.mp hcall
    have hnoFee : market.fee = 0 := not_not.mp hnone
    rw [feeSharesOf_of_no_fee hnoFee]
    rfl

theorem feeSharesOf_of_no_interest : feeSharesOf market 0 = 0 := by
  rw [feeSharesOf, feeOf, Nat.zero_mul, Nat.zero_div, feeShares, Nat.zero_mul, Nat.zero_div]

theorem Accrued.none : Accrued market market 0 where
  borrowAssets := rfl
  supplyAssets := rfl
  borrowShares := rfl
  supplyShares := by rw [feeSharesOf_of_no_interest, Nat.add_zero]

/-- The numbers stay in 128 bits at any rate that the rate model may answer. -/
def RoomyAt (morpho : Morpho P) (protocols : P) (params : MarketParams) (timestamp : ℕ) :
    Prop :=
  ∀ rate, morpho.borrowRateView protocols params (morpho.market protocols params) = .ok rate →
    Roomy (morpho.market protocols params)
      (interestOf (morpho.market protocols params) rate
        (subUint256 timestamp (morpho.market protocols params).lastUpdate))

theorem accrued_of_expectedMarketBalances
    (hfee : (morpho.market protocols params).fee ≤ wad)
    (hroomy : RoomyAt morpho protocols params timestamp)
    (hcall : expectedMarketBalances morpho protocols params timestamp = .ok after) :
    ∃ interest, Accrued (morpho.market protocols params) after interest ∧
      (params.irm ≠ zeroAddress → ∀ rate,
        morpho.borrowRateView protocols params (morpho.market protocols params) = .ok rate →
        interest = interestOf (morpho.market protocols params) rate
          (subUint256 timestamp (morpho.market protocols params).lastUpdate)) := by
  unfold expectedMarketBalances at hcall
  unfold RoomyAt at hroomy
  generalize morpho.market protocols params = market at hfee hroomy hcall ⊢
  dsimp only at hcall
  generalize subUint256 timestamp market.lastUpdate = elapsed at hroomy hcall ⊢
  split at hcall
  · simp only [bind_eq_ok, toUint128_eq_ok] at hcall
    obtain ⟨rate, hrate, grown, hgrown, interest, hinterest, _, ⟨-, rfl⟩, hshares⟩ := hcall
    obtain rfl := wTaylorCompounded_eq_ok hgrown
    obtain rfl : interest = interestOf market rate elapsed := wMulDown_eq_ok hinterest
    have hfits := hroomy rate hrate
    rw [addUint128_of_lt hfits.borrowAssets, addUint128_of_lt hfits.supplyAssets] at hshares
    obtain rfl := accrueFeeShares_eq_ok hfee hfits.supplyAssets hfits.supplyShares hshares
    refine ⟨_, ⟨rfl, rfl, rfl, rfl⟩, fun _ other hother => ?_⟩
    rw [Except.ok.inj (hother.symm.trans hrate)]
  · next hskipped =>
    obtain rfl := pure_eq_ok.mp hcall
    refine ⟨0, Accrued.none, fun hirm rate _ => ?_⟩
    by_cases helapsed : elapsed = 0
    · rw [interestOf, helapsed, Nat.mul_zero]
      exact (Nat.zero_div _).symm
    · have hdebt : market.totalBorrowAssets = 0 := by
        by_contra hdebt
        exact hskipped ⟨helapsed, hdebt, hirm⟩
      rw [interestOf, hdebt, Nat.zero_mul, Nat.zero_div]

/-! ## Who pays and who gets it -/

theorem supplied_mono (hfee : market.fee ≤ wad) (haccrued : Accrued market after interest)
    (shares : ℕ) : supplied market shares ≤ supplied after shares := by
  have hprice : PriceLe (market.totalSupplyAssets + virtualAssets)
      (market.totalSupplyShares + virtualShares)
      (market.totalSupplyAssets + virtualAssets + interest)
      (market.totalSupplyShares + virtualShares +
        feeShares (market.totalSupplyAssets + virtualAssets + interest)
          (market.totalSupplyShares + virtualShares) (feeOf market interest)) :=
    priceLe_of_fee (feeOf_le hfee)
  have hassets : after.totalSupplyAssets + virtualAssets =
      market.totalSupplyAssets + virtualAssets + interest := by
    rw [haccrued.supplyAssets, Nat.add_right_comm]
  have hshares : after.totalSupplyShares + virtualShares =
      market.totalSupplyShares + virtualShares + feeSharesOf market interest := by
    rw [haccrued.supplyShares, Nat.add_right_comm]
  have hvirtual : 0 < virtualShares := by decide
  rw [supplied, supplied, hassets, hshares]
  exact worthDown_mono (Nat.add_pos_right _ hvirtual)
    (Nat.add_pos_left (Nat.add_pos_right _ hvirtual) _) hprice

theorem owed_mono (haccrued : Accrued market after interest) (shares : ℕ) :
    owed market shares ≤ owed after shares := by
  have hassets : market.totalBorrowAssets + virtualAssets ≤
      after.totalBorrowAssets + virtualAssets := by
    rw [haccrued.borrowAssets]
    omega
  have hpositive : 0 < market.totalBorrowShares + virtualShares :=
    Nat.add_pos_right _ (by decide)
  rw [owed, owed, haccrued.borrowShares]
  exact worthUp_mono hpositive hpositive (priceLe_of_income hassets)

theorem supplied_feeShares_le (hfee : market.fee ≤ wad)
    (haccrued : Accrued market after interest) :
    supplied after (feeSharesOf market interest) ≤ feeOf market interest := by
  have hassets : after.totalSupplyAssets + virtualAssets =
      market.totalSupplyAssets + virtualAssets + interest := by
    rw [haccrued.supplyAssets, Nat.add_right_comm]
  have hshares : after.totalSupplyShares + virtualShares =
      market.totalSupplyShares + virtualShares + feeSharesOf market interest := by
    rw [haccrued.supplyShares, Nat.add_right_comm]
  rw [supplied, hassets, hshares]
  exact feeShares_worth_le ((feeOf_le hfee).trans (Nat.le_add_left _ _))

/-- A Morpho of one market, at one rate, where one account has all the shares. -/
def oneMarket : Morpho Market where
  contract := 9
  market market _ := market
  position market _ account :=
    if account = 7 then ⟨market.totalSupplyShares, market.totalBorrowShares, 0⟩ else ⟨0, 0, 0⟩
  borrowRateView _ _ _ := .ok (10 ^ 9)
  supplyCollateral _ _ _ _ market := .ok market
  withdrawCollateral _ _ _ _ market := .ok market
  borrow _ _ _ _ market := .ok market
  repay _ _ _ _ _ market := .ok (market, 0)

def oneMarketParams : MarketParams := ⟨1, 2, 3, 4, 5⟩

def lentMarket : Market :=
  ⟨2 * 10 ^ 24, 2 * 10 ^ 30, 10 ^ 24, 10 ^ 30, 1000, 10 ^ 17⟩

theorem oneMarket_roomy : RoomyAt oneMarket lentMarket oneMarketParams 87400 := by
  intro rate hrate
  obtain rfl : 10 ^ 9 = rate := Except.ok.inj hrate
  exact ⟨by decide +kernel, by decide +kernel, by decide +kernel⟩

theorem oneMarket_read :
    Returns (expectedMarketBalances oneMarket lentMarket oneMarketParams 87400)
      fun after => 10 ^ 24 < after.totalBorrowAssets := by
  decide +kernel

/-- The interest that is read goes from the borrowers to the suppliers, and the market's fee
out of it: no account's balance falls. -/
theorem accrual_is_fair (hfee : (morpho.market protocols params).fee ≤ wad)
    (hroomy : RoomyAt morpho protocols params timestamp)
    (hcall : expectedMarketBalances morpho protocols params timestamp = .ok after) :
    (∃ interest, Accrued (morpho.market protocols params) after interest ∧
      supplied after (feeSharesOf (morpho.market protocols params) interest) ≤
        feeOf (morpho.market protocols params) interest) ∧
      (∀ user assets,
        expectedSupplyAssets morpho protocols params timestamp user = .ok assets →
        supplied (morpho.market protocols params)
          (morpho.position protocols params user).supplyShares ≤ assets) ∧
      ∀ user assets,
        expectedBorrowAssets morpho protocols params timestamp user = .ok assets →
        owed (morpho.market protocols params)
          (morpho.position protocols params user).borrowShares ≤ assets := by
  obtain ⟨interest, haccrued, -⟩ := accrued_of_expectedMarketBalances hfee hroomy hcall
  refine ⟨⟨interest, haccrued, supplied_feeShares_le hfee haccrued⟩, ?_, ?_⟩
  · intro user assets hassets
    obtain ⟨_, hread, hdown⟩ := bind_eq_ok.mp hassets
    obtain rfl := Except.ok.inj (hcall.symm.trans hread)
    rw [toAssetsDown_eq_ok hdown]
    exact supplied_mono hfee haccrued _
  · intro user assets hassets
    obtain ⟨_, hread, hup⟩ := bind_eq_ok.mp hassets
    obtain rfl := Except.ok.inj (hcall.symm.trans hread)
    rw [toAssetsUp_eq_ok hup]
    exact owed_mono haccrued _

theorem accrual_is_fair_oneMarket :
    ∃ after, expectedMarketBalances oneMarket lentMarket oneMarketParams 87400 = .ok after ∧
      (∃ interest, Accrued lentMarket after interest ∧
        supplied after (feeSharesOf lentMarket interest) ≤ feeOf lentMarket interest) ∧
      ∀ assets,
        expectedBorrowAssets oneMarket lentMarket oneMarketParams 87400 7 = .ok assets →
        owed lentMarket (10 ^ 30) ≤ assets := by
  obtain ⟨after, hafter, -⟩ := returns_iff.mp oneMarket_read
  have hfair := accrual_is_fair (by decide) oneMarket_roomy hafter
  exact ⟨after, hafter, hfair.1, fun assets => hfair.2.2 7 assets⟩

/-- The debt is at least what simple interest makes it and at most what continuous
compounding does, and up to a doubling it is close below that. -/
theorem debt_between_interests {rate : ℕ}
    (hfee : (morpho.market protocols params).fee ≤ wad)
    (hroomy : RoomyAt morpho protocols params timestamp) (hirm : params.irm ≠ zeroAddress)
    (hrate : morpho.borrowRateView protocols params (morpho.market protocols params) =
      .ok rate)
    (hcall : expectedMarketBalances morpho protocols params timestamp = .ok after) :
    let market := morpho.market protocols params
    let nominal := rate * subUint256 timestamp market.lastUpdate
    let debt := market.totalBorrowAssets
    debt + debt * nominal / wad ≤ after.totalBorrowAssets ∧
      (after.totalBorrowAssets : ℝ) ≤ debt * Real.exp (nominal / wad) ∧
      (nominal ≤ wad →
        debt * Real.exp (nominal / wad) <
          after.totalBorrowAssets + 1 +
            debt * ((nominal / wad : ℝ) ^ 4 * (5 / 96) + 7 / 3 / wad)) := by
  obtain ⟨interest, haccrued, hinterest⟩ := accrued_of_expectedMarketBalances hfee hroomy hcall
  have hafter := haccrued.borrowAssets
  rw [hinterest hirm rate hrate, interestOf] at hafter
  dsimp only
  generalize (morpho.market protocols params).totalBorrowAssets = debt at hafter ⊢
  generalize rate * subUint256 timestamp (morpho.market protocols params).lastUpdate =
    nominal at hafter ⊢
  have hwad : 0 < wad := by decide
  rw [hafter]
  exact ⟨le_compounded debt nominal, compounded_le_exp hwad debt nominal,
    fun hsmall => exp_lt_compounded hwad hsmall debt⟩

theorem debt_between_interests_oneMarket :
    ∃ after, expectedMarketBalances oneMarket lentMarket oneMarketParams 87400 = .ok after ∧
      10 ^ 24 + 864 * 10 ^ 17 ≤ after.totalBorrowAssets ∧
      (after.totalBorrowAssets : ℝ) ≤
        (10 ^ 24 : ℕ) * Real.exp ((10 ^ 9 * 86400 : ℕ) / wad) := by
  obtain ⟨after, hafter, -⟩ := returns_iff.mp oneMarket_read
  have hbetween :=
    debt_between_interests (by decide) oneMarket_roomy (by decide) rfl hafter
  exact ⟨after, hafter, hbetween.1, hbetween.2.1⟩

end SetProtocol.MorphoLeverageModule
