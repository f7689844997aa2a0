import SetProtocol.Library.Backing
import SetProtocol.Library.Rounding

/-!
# Units and notional amounts

A fund promises a unit of something for each share.  What it holds for all shares is rounded
down, what it should hold is rounded up, and the unit that a holding stands for is rounded
down again.  From one whole share on, these roundings never carry a unit past its target.
-/

namespace SetProtocol.Allocation

open Backing Rounding

/-- A unit for all shares, rounded down. -/
def held (scale supply unit : ℕ) : ℕ := supply * unit / scale

/-- A unit for all shares, rounded up. -/
def wanted (scale supply unit : ℕ) : ℕ := supply * unit ⌈/⌉ scale

/-- The unit that an amount stands for. -/
def unitFor (scale supply amount : ℕ) : ℕ := amount * scale / supply

variable {scale supply unit target left : ℕ}

theorem held_mul_le (scale supply unit : ℕ) :
    held scale supply unit * scale ≤ supply * unit := Nat.div_mul_le_self _ _

theorem lt_held_succ_mul (hscale : 0 < scale) :
    supply * unit < (held scale supply unit + 1) * scale :=
  (Nat.div_lt_iff_lt_mul hscale).mp (Nat.lt_succ_self _)

theorem le_wanted_mul (hscale : 0 < scale) :
    supply * unit ≤ wanted scale supply unit * scale := le_ceilDiv_mul _ hscale

theorem wanted_mul_lt (hscale : 0 < scale) :
    wanted scale supply unit * scale < supply * unit + scale := ceilDiv_mul_lt _ hscale

/-! ## Comparing amounts and units -/

/-- If the rounded amounts say that there is too much, so do the units. -/
theorem target_lt_of_wanted_lt (hscale : 0 < scale)
    (hmore : wanted scale supply target < held scale supply unit) : target < unit := by
  refine Nat.lt_of_mul_lt_mul_left (a := supply) ?_
  calc supply * target ≤ wanted scale supply target * scale := le_wanted_mul hscale
    _ < held scale supply unit * scale := Nat.mul_lt_mul_of_pos_right hmore hscale
    _ ≤ supply * unit := held_mul_le scale supply unit

theorem held_lt_wanted (hscale : 0 < scale) (hsupply : 0 < supply) (hless : unit < target) :
    held scale supply unit < wanted scale supply target := by
  refine Nat.lt_of_mul_lt_mul_right (a := scale) ?_
  calc held scale supply unit * scale ≤ supply * unit := held_mul_le scale supply unit
    _ < supply * target := Nat.mul_lt_mul_of_pos_left hless hsupply
    _ ≤ wanted scale supply target * scale := le_wanted_mul hscale

/-- From one whole share on, a unit above its target is worth at least what is wanted. -/
theorem wanted_le_held (hscale : 0 < scale) (hsupply : scale ≤ supply)
    (hmore : target < unit) : wanted scale supply target ≤ held scale supply unit := by
  rw [held, Nat.le_div_iff_mul_le hscale]
  have hrounded : wanted scale supply target * scale < supply * target + scale :=
    wanted_mul_lt hscale
  calc wanted scale supply target * scale ≤ supply * target + supply := by omega
    _ = supply * (target + 1) := (Nat.mul_succ _ _).symm
    _ ≤ supply * unit := Nat.mul_le_mul_left _ hmore

/-- The rounded amounts do not cross if a whole amount lies between the exact ones. -/
theorem wanted_le_held_iff (hscale : 0 < scale) :
    wanted scale supply target ≤ held scale supply unit ↔
      ∃ amount, supply * target ≤ amount * scale ∧ amount * scale ≤ supply * unit := by
  constructor
  · intro hle
    exact ⟨_, le_wanted_mul hscale, (Nat.le_div_iff_mul_le hscale).mp hle⟩
  · rintro ⟨amount, hlow, hhigh⟩
    rw [Nat.mul_comm amount] at hlow
    calc wanted scale supply target ≤ amount := (ceilDiv_le_iff_le_mul hscale).mpr hlow
      _ ≤ held scale supply unit := (Nat.le_div_iff_mul_le hscale).mpr hhigh

/-! ## The unit of what is left -/

/-- Giving up part of the excess leaves a unit between the target and the old unit. -/
theorem unitFor_between (hscale : 0 < scale) (hsupply : 0 < supply)
    (hlow : wanted scale supply target ≤ left) (hhigh : left ≤ held scale supply unit) :
    target ≤ unitFor scale supply left ∧ unitFor scale supply left ≤ unit := by
  constructor
  · rw [unitFor, Nat.le_div_iff_mul_le hsupply, Nat.mul_comm]
    exact (le_wanted_mul hscale).trans (Nat.mul_le_mul_right _ hlow)
  · refine Nat.div_le_of_le_mul ?_
    exact (Nat.mul_le_mul_right _ hhigh).trans (held_mul_le scale supply unit)

/-- Any addition makes up for the rounding of what is held. -/
theorem le_unitFor (hscale : 0 < scale) (hsupply : 0 < supply)
    (hmore : held scale supply unit < left) : unit ≤ unitFor scale supply left := by
  rw [unitFor, Nat.le_div_iff_mul_le hsupply, Nat.mul_comm]
  exact (lt_held_succ_mul hscale).le.trans (Nat.mul_le_mul_right _ hmore)

/-- With at least one whole share, no more than what is wanted stays within the target. -/
theorem mul_lt_of_le_wanted (hscale : 0 < scale) (hsupply : scale ≤ supply)
    (hleft : left ≤ wanted scale supply target) : left * scale < (target + 1) * supply :=
  calc left * scale ≤ wanted scale supply target * scale := Nat.mul_le_mul_right _ hleft
    _ < supply * target + scale := wanted_mul_lt hscale
    _ ≤ supply * target + supply := Nat.add_le_add_left hsupply _
    _ = (target + 1) * supply := by rw [Nat.mul_comm, Nat.succ_mul]

theorem unitFor_le_of_le_wanted (hscale : 0 < scale) (hsupply : scale ≤ supply)
    (hleft : left ≤ wanted scale supply target) : unitFor scale supply left ≤ target :=
  Nat.le_of_lt_succ ((Nat.div_lt_iff_lt_mul (hscale.trans_le hsupply)).mpr
    (mul_lt_of_le_wanted hscale hsupply hleft))

/-- With at least one whole share, the rounding of what is held costs at most one unit. -/
theorem le_unitFor_succ (hscale : 0 < scale) (hsupply : scale ≤ supply)
    (hkept : held scale supply unit ≤ left) : unit ≤ unitFor scale supply left + 1 := by
  have hleft : left * scale < (unitFor scale supply left + 1) * supply :=
    (Nat.div_lt_iff_lt_mul (hscale.trans_le hsupply)).mp (Nat.lt_succ_self _)
  have hunit : supply * unit < (unitFor scale supply left + 2) * supply :=
    calc supply * unit < (held scale supply unit + 1) * scale := lt_held_succ_mul hscale
      _ ≤ left * scale + scale := by
          rw [Nat.succ_mul]
          exact Nat.add_le_add_right (Nat.mul_le_mul_right _ hkept) _
      _ < (unitFor scale supply left + 1) * supply + supply :=
          Nat.add_lt_add_of_lt_of_le hleft hsupply
      _ = (unitFor scale supply left + 2) * supply := (Nat.succ_mul _ _).symm
  rw [Nat.mul_comm] at hunit
  exact Nat.le_of_lt_succ (Nat.lt_of_mul_lt_mul_right hunit)

/-- What is wanted for whole shares stands for the unit itself. -/
theorem unitFor_wanted (hscale : 0 < scale) (hsupply : scale ≤ supply) :
    unitFor scale supply (wanted scale supply target) = target := by
  apply Nat.le_antisymm (unitFor_le_of_le_wanted hscale hsupply le_rfl)
  rw [unitFor, Nat.le_div_iff_mul_le (hscale.trans_le hsupply), Nat.mul_comm]
  exact le_wanted_mul hscale

/-- The unit of an amount is worth no more than the amount. -/
theorem held_unitFor_le (scale supply amount : ℕ) :
    held scale supply (unitFor scale supply amount) ≤ amount := by
  refine Nat.div_le_of_le_mul ?_
  rw [unitFor, Nat.mul_comm scale]
  exact Nat.mul_div_le _ _

theorem held_mono (hle : unit ≤ target) : held scale supply unit ≤ held scale supply target :=
  Nat.div_le_div_right (Nat.mul_le_mul_left _ hle)

/-! ## Units that are converted -/

/-- What an amount can lose when it is spread over all shares and the unit is converted to
another scale and back. -/
def conversionLoss (scale factor supply : ℕ) : ℕ :=
  (factor + 2 * scale) * supply / (scale * scale) + 1

theorem held_thereAndBack_le (hscale : 0 < scale) (factor supply amount : ℕ) :
    held scale supply (thereAndBack scale factor (unitFor scale supply amount)) ≤ amount :=
  calc held scale supply (thereAndBack scale factor (unitFor scale supply amount))
      ≤ held scale supply (unitFor scale supply amount) :=
        held_mono (thereAndBack_le hscale factor _)
    _ ≤ amount := held_unitFor_le scale supply amount

theorem le_held_thereAndBack {factor : ℕ} (hscale : 0 < scale) (hfactor : 0 < factor)
    (hsupply : 0 < supply) (amount : ℕ) :
    amount ≤ held scale supply (thereAndBack scale factor (unitFor scale supply amount)) +
      conversionLoss scale factor supply := by
  have hspread : amount * scale < (unitFor scale supply amount + 1) * supply :=
    (Nat.div_lt_iff_lt_mul hsupply).mp (Nat.lt_succ_self _)
  generalize unitFor scale supply amount = unit at hspread ⊢
  have hover : unit * scale < unit * scale / factor * factor + factor := by
    rw [← Nat.succ_mul]
    exact (Nat.div_lt_iff_lt_mul hfactor).mp (Nat.lt_succ_self _)
  have hback : unit * scale / factor * factor < (thereAndBack scale factor unit + 1) * scale :=
    (Nat.div_lt_iff_lt_mul hscale).mp (Nat.lt_succ_self _)
  generalize thereAndBack scale factor unit = back at hback ⊢
  have hheld : supply * back < (held scale supply back + 1) * scale := lt_held_succ_mul hscale
  have hloss : (factor + 2 * scale) * supply <
      conversionLoss scale factor supply * (scale * scale) :=
    (Nat.div_lt_iff_lt_mul (Nat.mul_pos hscale hscale)).mp (Nat.lt_succ_self _)
  refine Nat.le_of_lt_succ (Nat.lt_of_mul_lt_mul_right (a := scale * scale) ?_)
  have hunit : unit * scale + scale ≤ back * scale + (factor + 2 * scale) := by
    calc unit * scale + scale ≤ (back + 1) * scale + factor + scale :=
          Nat.add_le_add_right (hover.le.trans (Nat.add_le_add_right hback.le _)) _
      _ = back * scale + (factor + 2 * scale) := by ring
  calc amount * (scale * scale) = amount * scale * scale := by ring
    _ ≤ (unit + 1) * supply * scale := Nat.mul_le_mul_right _ hspread.le
    _ = (unit * scale + scale) * supply := by ring
    _ ≤ (back * scale + (factor + 2 * scale)) * supply := Nat.mul_le_mul_right _ hunit
    _ = supply * back * scale + (factor + 2 * scale) * supply := by ring
    _ < (held scale supply back + 1) * scale * scale +
        conversionLoss scale factor supply * (scale * scale) :=
      Nat.add_lt_add_of_le_of_lt (Nat.mul_le_mul_right _ hheld.le) hloss
    _ = (held scale supply back + conversionLoss scale factor supply).succ *
        (scale * scale) := by
      rw [Nat.succ_eq_add_one]
      ring

/-! ## Purchases that are charged -/

/-- What a charge that rounds down leaves of a purchase. -/
def net (scale fee quantity : ℕ) : ℕ := quantity - quantity * fee / scale

variable {fee quantity missing : ℕ}

theorem net_pos (hscale : 0 < scale) (hfee : fee < scale) (hquantity : 0 < quantity) :
    0 < net scale fee quantity :=
  Nat.sub_pos_of_lt ((Nat.div_lt_iff_lt_mul hscale).mpr
    (Nat.mul_lt_mul_of_pos_left hfee hquantity))

theorem charge_le (hfee : fee ≤ scale) (quantity : ℕ) : quantity * fee / scale ≤ quantity :=
  Nat.div_le_of_le_mul (by
    rw [Nat.mul_comm scale]
    exact Nat.mul_le_mul_left quantity hfee)

theorem net_mono (hfee : fee < scale) {more : ℕ} (hle : quantity ≤ more) :
    net scale fee quantity ≤ net scale fee more := by
  have hscale : 0 < scale := Nat.zero_lt_of_lt hfee
  have hcharge := charge_le hfee.le quantity
  have hextra : more * fee / scale ≤ quantity * fee / scale + (more - quantity) := by
    obtain ⟨extra, rfl⟩ := Nat.exists_eq_add_of_le hle
    rw [Nat.add_sub_cancel_left, ← Nat.add_mul_div_right _ _ hscale, Nat.add_mul]
    exact Nat.div_le_div_right (Nat.add_le_add_left (Nat.mul_le_mul_left _ hfee.le) _)
  unfold net
  omega

/-- Up to the grossed-up quantity, a purchase leaves no more than was missing. -/
theorem net_le_of_grossed (hfee : fee < scale)
    (hquantity : quantity ≤ missing * scale / (scale - fee)) :
    net scale fee quantity ≤ missing :=
  (net_mono hfee hquantity).trans_eq (net_of_gross missing hfee)

end SetProtocol.Allocation
