import Mathlib.Algebra.Order.Floor.Div
import Mathlib.Tactic.Linarith
import Mathlib.Tactic.Ring

/-!
# Shares of a pool

Shares divide the assets of a pool.  What shares are worth is rounded down where they are
claims and up where they are debts; either way it follows the price of a share.  A fee on
new assets is paid in new shares, priced as if the fee had been taken out: the price does
not fall, as long as the fee is no more than what came in, and the new shares are worth no
more than the fee.
-/

namespace SetProtocol.PooledShares

variable {assets shares moreAssets moreShares held income fee : ℕ}

/-- The price of a share does not fall from one pool to the other. -/
def PriceLe (assets shares moreAssets moreShares : ℕ) : Prop :=
  assets * moreShares ≤ moreAssets * shares

theorem priceLe_of_income (hassets : assets ≤ moreAssets) :
    PriceLe assets shares moreAssets shares :=
  Nat.mul_le_mul_right shares hassets

theorem worthDown_mono (hshares : 0 < shares) (hmore : 0 < moreShares)
    (hprice : PriceLe assets shares moreAssets moreShares) :
    held * assets / shares ≤ held * moreAssets / moreShares := by
  rw [Nat.le_div_iff_mul_le hmore]
  refine Nat.le_of_mul_le_mul_right (c := shares) ?_ hshares
  calc held * assets / shares * moreShares * shares
      = held * assets / shares * shares * moreShares := by ring
    _ ≤ held * assets * moreShares := Nat.mul_le_mul_right _ (Nat.div_mul_le_self _ _)
    _ = held * (assets * moreShares) := Nat.mul_assoc _ _ _
    _ ≤ held * (moreAssets * shares) := Nat.mul_le_mul_left _ hprice
    _ = held * moreAssets * shares := (Nat.mul_assoc _ _ _).symm

theorem worthUp_mono (hshares : 0 < shares) (hmore : 0 < moreShares)
    (hprice : PriceLe assets shares moreAssets moreShares) :
    held * assets ⌈/⌉ shares ≤ held * moreAssets ⌈/⌉ moreShares := by
  have hworth : held * moreAssets ≤ moreShares * (held * moreAssets ⌈/⌉ moreShares) := by
    have hceil := le_smul_ceilDiv (b := held * moreAssets) hmore
    rwa [smul_eq_mul] at hceil
  rw [ceilDiv_le_iff_le_mul hshares]
  refine Nat.le_of_mul_le_mul_right (c := moreShares) ?_ hmore
  calc held * assets * moreShares = held * (assets * moreShares) := Nat.mul_assoc _ _ _
    _ ≤ held * (moreAssets * shares) := Nat.mul_le_mul_left _ hprice
    _ = held * moreAssets * shares := (Nat.mul_assoc _ _ _).symm
    _ ≤ moreShares * (held * moreAssets ⌈/⌉ moreShares) * shares :=
      Nat.mul_le_mul_right _ hworth
    _ = shares * (held * moreAssets ⌈/⌉ moreShares) * moreShares := by ring

/-! ## Fees -/

/-- The shares that pay a fee. -/
def feeShares (total shares fee : ℕ) : ℕ := fee * shares / (total - fee)

theorem feeShares_mul_le (total shares fee : ℕ) :
    feeShares total shares fee * (total - fee) ≤ fee * shares :=
  Nat.div_mul_le_self _ _

/-- A fee out of the income leaves the other shares their price. -/
theorem priceLe_of_fee (hfee : fee ≤ income) :
    PriceLe assets shares (assets + income)
      (shares + feeShares (assets + income) shares fee) := by
  have hminted := feeShares_mul_le (assets + income) shares fee
  have hkept : assets ≤ assets + income - fee := by omega
  unfold PriceLe
  generalize feeShares (assets + income) shares fee = minted at hminted ⊢
  have hless : assets * minted ≤ fee * shares :=
    calc assets * minted ≤ (assets + income - fee) * minted := Nat.mul_le_mul_right _ hkept
      _ = minted * (assets + income - fee) := Nat.mul_comm _ _
      _ ≤ fee * shares := hminted
  calc assets * (shares + minted) = assets * shares + assets * minted := Nat.mul_add _ _ _
    _ ≤ assets * shares + income * shares :=
      Nat.add_le_add_left (hless.trans (Nat.mul_le_mul_right _ hfee)) _
    _ = (assets + income) * shares := (Nat.add_mul _ _ _).symm

/-- The shares that pay a fee are worth at most the fee. -/
theorem feeShares_worth_le {total : ℕ} (hfee : fee ≤ total) :
    feeShares total shares fee * total / (shares + feeShares total shares fee) ≤ fee := by
  have hminted := feeShares_mul_le total shares fee
  generalize feeShares total shares fee = minted at hminted ⊢
  apply Nat.div_le_of_le_mul
  calc minted * total = minted * (total - fee) + minted * fee := by
        rw [← Nat.mul_add, Nat.sub_add_cancel hfee]
    _ ≤ fee * shares + minted * fee := Nat.add_le_add_right hminted _
    _ = (shares + minted) * fee := by ring

end SetProtocol.PooledShares
