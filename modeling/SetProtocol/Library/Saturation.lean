import Mathlib.Algebra.Order.Sub.Basic
import Mathlib.Order.WithBot
import Mathlib.Tactic.Common

/-!
# Saturating quantities

A quantity that has passed a limit on its way counts as unbounded, written `⊤`.  A value
that moves by such a quantity stops at a bound.  Passing limits, applying monotone
functions and moving are all monotone, and so is any chain of them.
-/

namespace SetProtocol.Saturation

variable {α : Type*} [LinearOrder α] {limit start bound quantity : α}

/-- Beyond the limit a quantity is unbounded. -/
def guarded (limit : α) : WithTop α → WithTop α
  | none => ⊤
  | some quantity => if limit < quantity then ⊤ else quantity

@[simp]
theorem guarded_top : guarded limit ⊤ = ⊤ := rfl

theorem guarded_of_lt (hlimit : limit < quantity) : guarded limit (WithTop.some quantity) = ⊤ :=
  if_pos hlimit

theorem guarded_of_le (hlimit : quantity ≤ limit) :
    guarded limit (WithTop.some quantity) = quantity :=
  if_neg hlimit.not_gt

theorem guarded_monotone (limit : α) : Monotone (guarded limit) := by
  intro lower upper hle
  induction upper using WithTop.recTopCoe with
  | top => exact le_top
  | coe upper =>
    rcases lt_or_ge limit upper with hupper | hupper
    · rw [guarded_of_lt hupper]
      exact le_top
    · obtain ⟨lower, rfl, hlower⟩ := WithTop.le_coe_iff.mp hle
      rw [guarded_of_le hupper, guarded_of_le (hlower.trans hupper)]
      exact hle

/-! ## Moving by a quantity -/

variable [AddCommMonoid α] [IsOrderedAddMonoid α]

/-- Up to a ceiling. -/
def ascend (start ceiling : α) : WithTop α → α
  | none => ceiling
  | some quantity => min (start + quantity) ceiling

omit [IsOrderedAddMonoid α] in
theorem ascend_le (moved : WithTop α) : ascend start bound moved ≤ bound := by
  cases moved with
  | top => exact le_refl _
  | coe quantity => exact min_le_right _ _

theorem ascend_monotone (start ceiling : α) : Monotone (ascend start ceiling) := by
  intro lower upper hle
  induction upper using WithTop.recTopCoe with
  | top => exact ascend_le lower
  | coe upper =>
    obtain ⟨lower, rfl, hlower⟩ := WithTop.le_coe_iff.mp hle
    exact min_le_min_right _ (by gcongr)

omit [IsOrderedAddMonoid α] in
theorem ascend_zero (hbound : start ≤ bound) : ascend start bound (WithTop.some 0) = start := by
  change min (start + 0) bound = start
  rw [add_zero, min_eq_left hbound]

variable [Sub α] [OrderedSub α]

/-- Down to a floor. -/
def descend (start floor : α) : WithTop α → α
  | none => floor
  | some quantity => max (start - quantity) floor

omit [IsOrderedAddMonoid α] [AddCommMonoid α] [OrderedSub α] in
theorem le_descend (moved : WithTop α) : bound ≤ descend start bound moved := by
  cases moved with
  | top => exact le_refl _
  | coe quantity => exact le_max_right _ _

theorem descend_antitone (start floor : α) : Antitone (descend start floor) := by
  intro lower upper hle
  induction upper using WithTop.recTopCoe with
  | top => exact le_descend lower
  | coe upper =>
    obtain ⟨lower, rfl, hlower⟩ := WithTop.le_coe_iff.mp hle
    exact max_le_max_right _ (tsub_le_tsub_left hlower _)

end SetProtocol.Saturation
