import Mathlib.Algebra.Order.Floor.Div
import Mathlib.Tactic.FieldSimp
import Mathlib.Tactic.Linarith
import Mathlib.Tactic.Ring

/-!
# Shares backed by a reserve

A reserve backs its shares if it holds `unit` for every `scale` shares.  Paying
in for new shares rounds up and paying out for old shares rounds down, and
either way the reserve goes on backing the shares that are left.
-/

namespace SetProtocol.Backing

/-- The balance covers `unit / scale` for each share. -/
def Backed (scale supply unit balance : ℕ) : Prop :=
  supply * unit ≤ balance * scale

variable {scale supply remaining unit balance more amount : ℕ}

theorem Backed.mono (hbacked : Backed scale supply unit balance)
    (hsupply : remaining ≤ supply) (hbalance : balance ≤ more) :
    Backed scale remaining unit more :=
  calc remaining * unit ≤ supply * unit := Nat.mul_le_mul_right unit hsupply
    _ ≤ balance * scale := hbacked
    _ ≤ more * scale := Nat.mul_le_mul_right scale hbalance

/-- Paying in at least what the new shares need. -/
theorem Backed.deposit (shares : ℕ) (hbacked : Backed scale supply unit balance)
    (hamount : shares * unit ≤ amount * scale) (hsupply : remaining ≤ supply + shares) :
    Backed scale remaining unit (balance + amount) :=
  calc remaining * unit ≤ (supply + shares) * unit := Nat.mul_le_mul_right unit hsupply
    _ = supply * unit + shares * unit := Nat.add_mul supply shares unit
    _ ≤ balance * scale + amount * scale := Nat.add_le_add hbacked hamount
    _ = (balance + amount) * scale := (Nat.add_mul balance amount scale).symm

/-- Shares that exist are never owed more than the reserve holds. -/
theorem Backed.affordable (shares : ℕ) (hbacked : Backed scale supply unit balance)
    (hscale : 0 < scale) (hamount : amount * scale ≤ shares * unit)
    (hshares : shares ≤ supply) : amount ≤ balance := by
  have hchain : amount * scale ≤ balance * scale :=
    calc amount * scale ≤ shares * unit := hamount
      _ ≤ supply * unit := Nat.mul_le_mul_right unit hshares
      _ ≤ balance * scale := hbacked
  exact Nat.le_of_mul_le_mul_right hchain hscale

/-- Paying out at most what the given up shares are worth. -/
theorem Backed.withdraw (shares : ℕ) (hbacked : Backed scale supply unit balance)
    (hamount : amount * scale ≤ shares * unit) (hsupply : remaining + shares ≤ supply) :
    Backed scale remaining unit (balance - amount) := by
  have htotal : remaining * unit + shares * unit ≤ balance * scale :=
    calc remaining * unit + shares * unit = (remaining + shares) * unit :=
          (Nat.add_mul remaining shares unit).symm
      _ ≤ supply * unit := Nat.mul_le_mul_right unit hsupply
      _ ≤ balance * scale := hbacked
  unfold Backed
  rw [Nat.sub_mul]
  omega

/-! ## Inflation

New shares worth a fraction `fee / scale` of the inflated supply dilute the old
ones.  A reserve stays sufficient if the unit falls by the same fraction. -/

/-- The supply after shares worth `fee / scale` of it were issued on top. -/
def inflated (scale fee supply : ℕ) : ℕ := supply + fee * supply / (scale - fee)

theorem inflated_mul_le {fee : ℕ} (hfee : fee ≤ scale) :
    inflated scale fee supply * (scale - fee) ≤ supply * scale := by
  have hminted : fee * supply / (scale - fee) * (scale - fee) ≤ fee * supply :=
    Nat.div_mul_le_self _ _
  calc inflated scale fee supply * (scale - fee)
      = supply * (scale - fee) + fee * supply / (scale - fee) * (scale - fee) :=
        Nat.add_mul _ _ _
    _ ≤ supply * (scale - fee) + fee * supply := Nat.add_le_add_left hminted _
    _ = supply * (scale - fee + fee) := by ring
    _ = supply * scale := by rw [Nat.sub_add_cancel hfee]

/-- A unit that falls by the inflation is owed no more in total than before. -/
theorem inflated_owed_le (supply : ℕ) {fee lowered : ℕ} (hscale : 0 < scale) (hfee : fee ≤ scale)
    (hfalls : lowered * scale ≤ unit * (scale - fee)) :
    inflated scale fee supply * lowered ≤ supply * unit := by
  refine Nat.le_of_mul_le_mul_right ?_ hscale
  calc inflated scale fee supply * lowered * scale
      = inflated scale fee supply * (lowered * scale) := Nat.mul_assoc _ _ _
    _ ≤ inflated scale fee supply * (unit * (scale - fee)) := Nat.mul_le_mul_left _ hfalls
    _ = inflated scale fee supply * (scale - fee) * unit := by ring
    _ ≤ supply * scale * unit := Nat.mul_le_mul_right unit (inflated_mul_le hfee)
    _ = supply * unit * scale := by ring

theorem inflated_eq_div {fee : ℕ} (supply : ℕ) (hfee : fee < scale) :
    inflated scale fee supply = supply * scale / (scale - fee) := by
  have hpositive : 0 < scale - fee := Nat.sub_pos_of_lt hfee
  have hsplit : supply * scale = fee * supply + supply * (scale - fee) := by
    rw [Nat.mul_comm fee, ← Nat.mul_add, Nat.add_sub_cancel' hfee.le]
  rw [hsplit, Nat.add_mul_div_right _ _ hpositive, inflated, Nat.add_comm]

theorem inflated_mono_fee {fee larger : ℕ} (supply : ℕ) (hlarger : fee ≤ larger)
    (hscale : larger < scale) : inflated scale fee supply ≤ inflated scale larger supply := by
  refine Nat.add_le_add_left ?_ supply
  exact (Nat.div_le_div_left (Nat.sub_le_sub_left hlarger scale)
    (Nat.sub_pos_of_lt hscale)).trans (Nat.div_le_div_right (Nat.mul_le_mul_right supply hlarger))

/-- Two inflations one after the other give at most one inflation by both fees. -/
theorem inflated_inflated_le {first second : ℕ} (supply : ℕ)
    (hscale : first + second < scale) :
    inflated scale second (inflated scale first supply) ≤
      inflated scale (first + second) supply := by
  have hfirst : first < scale := (Nat.le_add_right first second).trans_lt hscale
  have hsecond : second < scale := (Nat.le_add_left second first).trans_lt hscale
  -- what is left after both fees is less than the product of what each leaves
  have hleft : (scale - (first + second)) * scale ≤ (scale - first) * (scale - second) := by
    obtain ⟨rest, rfl⟩ := Nat.exists_eq_add_of_lt hscale
    have h1 : first + second + rest + 1 - (first + second) = rest + 1 := by omega
    have h2 : first + second + rest + 1 - first = second + rest + 1 := by omega
    have h3 : first + second + rest + 1 - second = first + rest + 1 := by omega
    rw [h1, h2, h3]
    nlinarith [Nat.zero_le (first * second)]
  have hinner : inflated scale first supply * (scale - first) ≤ supply * scale :=
    inflated_mul_le hfirst.le
  have houter : inflated scale second (inflated scale first supply) * (scale - second) ≤
      inflated scale first supply * scale := inflated_mul_le hsecond.le
  rw [inflated_eq_div supply hscale, Nat.le_div_iff_mul_le (Nat.sub_pos_of_lt hscale)]
  refine Nat.le_of_mul_le_mul_right ?_ (Nat.zero_lt_of_lt hscale)
  calc inflated scale second (inflated scale first supply) * (scale - (first + second)) * scale
      = inflated scale second (inflated scale first supply) *
          ((scale - (first + second)) * scale) := Nat.mul_assoc _ _ _
    _ ≤ inflated scale second (inflated scale first supply) *
          ((scale - first) * (scale - second)) := Nat.mul_le_mul_left _ hleft
    _ = inflated scale second (inflated scale first supply) * (scale - second) *
          (scale - first) := by ring
    _ ≤ inflated scale first supply * scale * (scale - first) :=
        Nat.mul_le_mul_right _ houter
    _ = inflated scale first supply * (scale - first) * scale := by ring
    _ ≤ supply * scale * scale := Nat.mul_le_mul_right scale hinner

/-- What is issued on top is at most the fee's share of the inflated supply. -/
theorem issued_le_share {fee issued : ℕ} (hfee : fee ≤ scale)
    (hissued : issued * (scale - fee) ≤ fee * supply) :
    issued * scale ≤ fee * (supply + issued) := by
  calc issued * scale = issued * (scale - fee) + issued * fee := by
        rw [← Nat.mul_add, Nat.sub_add_cancel hfee]
    _ ≤ fee * supply + issued * fee := Nat.add_le_add_right hissued _
    _ = fee * (supply + issued) := by ring

/-- Of a supply that the inflation divides, no share is lost to rounding. -/
theorem inflated_of_multiple {fee : ℕ} (hfee : fee < scale) :
    inflated scale fee ((scale - fee) * scale) = scale * scale := by
  have hpositive : 0 < scale - fee := Nat.sub_pos_of_lt hfee
  have hminted : fee * ((scale - fee) * scale) / (scale - fee) = fee * scale := by
    rw [← Nat.mul_assoc, Nat.mul_comm fee, Nat.mul_assoc, Nat.mul_div_cancel_left _ hpositive]
  rw [inflated, hminted, ← Nat.add_mul, Nat.sub_add_cancel hfee.le]

/-! ## Issuing at the value of a share

New shares are minted for a payment at the perceived value of the old ones, and
given back at their actual value.  The gain is the share of what was not
perceived. -/

theorem round_trip_gain {K : Type*} [Field K] [LinearOrder K] [IsStrictOrderedRing K]
    {value perceived counted minted total back : K} (htotal : 0 < total)
    (hminted : minted * perceived ≤ counted * total)
    (hback : back * total ≤ minted * value) :
    back ≤ counted + minted / total * (value - perceived) := by
  refine le_of_mul_le_mul_right ?_ htotal
  calc back * total ≤ minted * value := hback
    _ = minted * perceived + minted * (value - perceived) := by ring
    _ ≤ counted * total + minted * (value - perceived) := add_le_add_left hminted _
    _ = (counted + minted / total * (value - perceived)) * total := by
      field_simp

/-- A rounded-up payment is enough, a rounded-down one not too much. -/
theorem le_ceilDiv_mul (value : ℕ) (hscale : 0 < scale) :
    value ≤ value ⌈/⌉ scale * scale := by
  rw [mul_comm]
  exact (ceilDiv_le_iff_le_mul hscale).mp le_rfl

end SetProtocol.Backing
