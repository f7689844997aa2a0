import Mathlib.Algebra.Order.Floor.Div
import Mathlib.Data.Int.Order.Basic
import Mathlib.Tactic.Linarith
import Mathlib.Tactic.Positivity
import Mathlib.Tactic.Ring

/-!
# Division that rounds down

Facts about `/` on the integers and the naturals that a fixed-point program
relies on: which results keep the sign of their operand, and how far a product
or a quotient that was rounded lies from the exact one.
-/

namespace SetProtocol.Rounding

/-! ## Signs -/

/-- Rounding down makes a number positive only by leaving at least one unit. -/
theorem ediv_pos_iff {a scale : ℤ} (hscale : 0 < scale) :
    0 < a / scale ↔ scale ≤ a := by
  rw [← Int.add_one_le_iff, zero_add, Int.le_ediv_iff_mul_le hscale, one_mul]

/-- Scaling by a positive factor keeps the sign, provided that a positive number
is not rounded to zero. -/
theorem sign_mul_ediv {value factor scale : ℤ} (hfactor : 0 < factor)
    (hscale : 0 < scale) (hkept : 0 < value → 0 < value * factor / scale) :
    (value * factor / scale).sign = value.sign := by
  rcases lt_trichotomy value 0 with hneg | rfl | hpos
  · have hproduct : value * factor < 0 := mul_neg_of_neg_of_pos hneg hfactor
    rw [Int.sign_eq_neg_one_of_neg (Int.ediv_neg_of_neg_of_pos hproduct hscale),
      Int.sign_eq_neg_one_of_neg hneg]
  · simp
  · rw [Int.sign_eq_one_of_pos (hkept hpos), Int.sign_eq_one_of_pos hpos]

/-- A larger number is at least as far from being rounded to zero. -/
theorem ediv_pos_of_le {low high factor scale : ℤ} (hfactor : 0 < factor)
    (hscale : 0 < scale) (hle : low ≤ high) (hpos : 0 < low * factor / scale) :
    0 < high * factor / scale :=
  lt_of_lt_of_le hpos
    (Int.ediv_le_ediv hscale (mul_le_mul_of_nonneg_right hle hfactor.le))

/-! ## Distances -/

/-- A quotient of at least `kept` units has lost at most one part in `kept + 1`. -/
theorem kept_mul_le {amount scale kept : ℕ} (hscale : 0 < scale)
    (hkept : kept ≤ amount / scale) :
    kept * amount ≤ (kept + 1) * (amount / scale) * scale :=
  calc kept * amount
      ≤ kept * (scale * (amount / scale + 1)) :=
        Nat.mul_le_mul_left kept (Nat.lt_mul_div_succ amount hscale).le
    _ = kept * (amount / scale) * scale + kept * scale := by ring
    _ ≤ kept * (amount / scale) * scale + amount / scale * scale :=
        Nat.add_le_add_left (Nat.mul_le_mul_right scale hkept) _
    _ = (kept + 1) * (amount / scale) * scale := by ring

theorem ceilDiv_eq_div_add (amount : ℕ) {scale : ℕ} (hscale : 0 < scale) :
    amount ⌈/⌉ scale = amount / scale + if amount % scale ≠ 0 then 1 else 0 := by
  rw [Nat.ceilDiv_eq_add_pred_div]
  have hsplit := Nat.div_add_mod amount scale
  have hless := Nat.mod_lt amount hscale
  have hform : amount + scale - 1 = scale * (amount / scale) + (amount % scale + scale - 1) := by
    omega
  rw [hform, Nat.mul_add_div hscale, Nat.add_left_cancel_iff]
  split
  · rename_i hrest
    rw [Nat.div_eq_iff hscale]
    omega
  · rename_i hrest
    rw [not_not] at hrest
    rw [hrest, Nat.zero_add, Nat.div_eq_of_lt (by omega)]

/-- Rounding up adds less than one. -/
theorem ceilDiv_mul_lt (value : ℕ) {scale : ℕ} (hscale : 0 < scale) :
    value ⌈/⌉ scale * scale < value + scale := by
  rw [Nat.ceilDiv_eq_add_pred_div]
  have hfloor := Nat.div_mul_le_self (value + scale - 1) scale
  omega

/-- Grossed up by a fee that rounds down, and charged with this fee, a value is what it
was: both divisions round to its favour and less than one in all. -/
theorem net_of_gross (value : ℕ) {fee scale : ℕ} (hfee : fee < scale) :
    value * scale / (scale - fee) - value * scale / (scale - fee) * fee / scale = value := by
  obtain ⟨kept, rfl⟩ := Nat.exists_eq_add_of_lt hfee
  have hkept : fee + kept + 1 - fee = kept + 1 := by omega
  rw [hkept]
  have hlow := Nat.div_mul_le_self (value * (fee + kept + 1)) (kept + 1)
  have hhigh := Nat.lt_div_mul_add (a := value * (fee + kept + 1)) kept.succ_pos
  generalize value * (fee + kept + 1) / (kept + 1) = gross at *
  have hcharged := Nat.div_mul_le_self (gross * fee) (fee + kept + 1)
  have hcharge := Nat.lt_div_mul_add (a := gross * fee) (fee + kept).succ_pos
  rw [Nat.succ_eq_add_one] at hcharge
  generalize gross * fee / (fee + kept + 1) = charge at *
  have hless : gross < value + charge + 1 := by
    refine Nat.lt_of_mul_lt_mul_right (a := fee + kept + 1) ?_
    linarith only [hlow, hcharge]
  have hmore : value + charge < gross + 1 := by
    refine Nat.lt_of_mul_lt_mul_right (a := fee + kept + 1) ?_
    linarith only [hhigh, hcharged]
  omega

/-! ## Limits

Dividing is undone by a comparison: which numbers have a quotient up to, or from, a limit.
-/

theorem lt_ceilDiv_iff {scale limit value : ℕ} (hscale : 0 < scale) :
    limit < value ⌈/⌉ scale ↔ limit * scale < value := by
  rw [← not_le, ceilDiv_le_iff_le_mul hscale, not_le, Nat.mul_comm]

/-- A limit that is not zero is reached as soon as the one below it is exceeded. -/
theorem succ_le_ceilDiv_iff {scale limit value : ℕ} (hscale : 0 < scale) (hlimit : 0 < limit) :
    limit ≤ value ⌈/⌉ scale ↔ (limit - 1) * scale < value := by
  rw [← lt_ceilDiv_iff hscale]
  omega

/-- A value divided and then converted reaches a limit if its undivided amount covers what
the limit needs. -/
theorem le_div_mul_div_iff {value divisor factor scale limit : ℕ} (hdivisor : 0 < divisor)
    (hfactor : 0 < factor) (hscale : 0 < scale) :
    limit ≤ value / divisor * factor / scale ↔
      (limit * scale ⌈/⌉ factor) * divisor ≤ value := by
  rw [Nat.le_div_iff_mul_le hscale, Nat.mul_comm (value / divisor),
    ← ceilDiv_le_iff_le_mul hfactor, Nat.le_div_iff_mul_le hdivisor]

/-- Divided there and back, a value below the quotient stays below the other amount. -/
theorem div_mul_div_le {value factor divisor scale bound : ℕ} (hdivisor : 0 < divisor)
    (hscale : 0 < scale) (hbound : bound ≤ value * scale / divisor) :
    bound * factor / scale ≤ value * factor / divisor := by
  rw [Nat.le_div_iff_mul_le hdivisor]
  have hworth := (Nat.le_div_iff_mul_le hdivisor).mp hbound
  have hfloor := Nat.div_mul_le_self (bound * factor) scale
  refine Nat.le_of_mul_le_mul_right (c := scale) ?_ hscale
  calc bound * factor / scale * divisor * scale
      = bound * factor / scale * scale * divisor := by ring
    _ ≤ bound * factor * divisor := Nat.mul_le_mul_right _ hfloor
    _ = bound * divisor * factor := by ring
    _ ≤ value * scale * factor := Nat.mul_le_mul_right _ hworth
    _ = value * factor * scale := by ring

/-! ## Converting there and back

A value is multiplied by `scale` and divided by `factor`, and later the other way
around.  With a factor up to the scale the way back misses it by at most one. -/

def thereAndBack (scale factor value : ℕ) : ℕ := value * scale / factor * factor / scale

section ThereAndBack

variable {scale factor : ℕ}

theorem thereAndBack_le (hscale : 0 < scale) (factor value : ℕ) :
    thereAndBack scale factor value ≤ value :=
  calc value * scale / factor * factor / scale
      ≤ value * scale / scale := Nat.div_le_div_right (Nat.div_mul_le_self _ _)
    _ = value := Nat.mul_div_cancel value hscale

theorem le_thereAndBack_succ (hfactor : 0 < factor) (hle : factor ≤ scale) (value : ℕ) :
    value ≤ thereAndBack scale factor value + 1 := by
  have hscale : 0 < scale := hfactor.trans_le hle
  have hnear : value * scale < value * scale / factor * factor + factor := by
    rw [← Nat.succ_mul]
    exact (Nat.div_lt_iff_lt_mul hfactor).mp (Nat.lt_succ_self _)
  have hback : value * scale / factor * factor <
      (thereAndBack scale factor value + 1) * scale :=
    (Nat.div_lt_iff_lt_mul hscale).mp (Nat.lt_succ_self _)
  refine Nat.le_of_lt_succ (Nat.lt_of_mul_lt_mul_right (a := scale) ?_)
  calc value * scale < value * scale / factor * factor + factor := hnear
    _ ≤ (thereAndBack scale factor value + 1) * scale + scale :=
      Nat.add_le_add hback.le hle
    _ = (thereAndBack scale factor value + 2) * scale := by ring

theorem thereAndBack_mono {low high : ℕ} (hle : low ≤ high) :
    thereAndBack scale factor low ≤ thereAndBack scale factor high :=
  Nat.div_le_div_right (Nat.mul_le_mul_right _
    (Nat.div_le_div_right (Nat.mul_le_mul_right _ hle)))

/-- A value comes back at or below a limit if it lies below the limit, or is the
next value and does not survive the conversion. -/
theorem thereAndBack_le_iff (hfactor : 0 < factor) (hle : factor ≤ scale)
    {value limit : ℕ} :
    thereAndBack scale factor value ≤ limit ↔
      value < limit +
        if thereAndBack scale factor (limit + 1) = limit + 1 then 1 else 2 := by
  have hscale : 0 < scale := hfactor.trans_le hle
  have hdown := thereAndBack_le hscale factor (limit + 1)
  constructor
  · intro hback
    have hup := le_thereAndBack_succ hfactor hle value
    by_contra hlarge
    have hmono : limit + 1 ≤ value → thereAndBack scale factor (limit + 1) ≤
        thereAndBack scale factor value := thereAndBack_mono
    split at hlarge <;> omega
  · intro hsmall
    have hvalue := thereAndBack_le hscale factor value
    split at hsmall
    · omega
    · rename_i hlost
      have hmono : thereAndBack scale factor value ≤
          thereAndBack scale factor (limit + 1) := thereAndBack_mono (by omega)
      omega

/-- The least value that comes back at or above a limit. -/
def leastReadable (scale factor limit : ℕ) : ℕ :=
  (limit * scale ⌈/⌉ factor) * factor ⌈/⌉ scale

theorem le_thereAndBack_iff (hscale : 0 < scale) (hfactor : 0 < factor) {limit value : ℕ} :
    limit ≤ thereAndBack scale factor value ↔ leastReadable scale factor limit ≤ value := by
  rw [thereAndBack, Nat.le_div_iff_mul_le hscale, leastReadable, ceilDiv_le_iff_le_mul hscale,
    Nat.mul_comm (value * scale / factor), ← ceilDiv_le_iff_le_mul hfactor,
    Nat.le_div_iff_mul_le hfactor, Nat.mul_comm scale]

theorem leastReadable_self (hscale : 0 < scale) (limit : ℕ) :
    leastReadable scale scale limit = limit := by
  apply eq_of_forall_ge_iff
  intro value
  rw [← le_thereAndBack_iff hscale hscale, thereAndBack, Nat.mul_div_cancel value hscale,
    Nat.mul_div_cancel value hscale]

end ThereAndBack

end SetProtocol.Rounding
