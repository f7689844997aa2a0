import SetProtocol.Library.Transaction
import Mathlib.Data.Int.Order.Basic
import Mathlib.Data.Nat.Init
import Mathlib.Tactic.NormNum
import Mathlib.Tactic.Positivity

/-!
# Checked 256-bit arithmetic

Every contract of the protocol computes through `SafeMath`, `SignedSafeMath`
and `SafeCast`.  A `uint256` is a natural number and an `int256` an integer;
each operation carries the check that makes it revert outside of its width.
The equations below state once when an operation returns, and with what.
-/

namespace SetProtocol

open Transaction

/-- Accounts and contracts. -/
abbrev Address := ℕ

/-- Arbitrary call data and position data. -/
abbrev Bytes := List UInt8

/-- A value, or the reason of the revert. -/
abbrev Outcome (A : Type) := Except String A

def zeroAddress : Address := 0

def maxUint256 : ℕ := 2 ^ 256 - 1
def maxInt256 : ℤ := 2 ^ 255 - 1
def minInt256 : ℤ := -2 ^ 255

/-- The integers an `int256` can hold. -/
def FitsInt256 (value : ℤ) : Prop := minInt256 ≤ value ∧ value ≤ maxInt256

instance (value : ℤ) : Decidable (FitsInt256 value) :=
  inferInstanceAs (Decidable (_ ∧ _))

/-- The texts with which arithmetic reverts, those of `PreciseUnitMath` included. -/
def arithmeticReasons : List String :=
  ["SafeMath: addition overflow", "SafeMath: subtraction overflow",
    "SafeMath: multiplication overflow", "SafeMath: division by zero",
    "SignedSafeMath: addition overflow", "SignedSafeMath: multiplication overflow",
    "SignedSafeMath: division by zero", "SignedSafeMath: division overflow",
    "SafeCast: value must be positive", "SafeCast: value doesn't fit in an int256",
    "Cant divide by 0", "Invalid input"]

/-- A call that, if it reverts, does so over its arithmetic. -/
abbrev Arithmetic {A : Type} (call : Outcome A) : Prop :=
  RevertsOnly (fun reason => reason ∈ arithmeticReasons) call

namespace SafeMath

def add (a b : ℕ) : Outcome ℕ :=
  if a + b ≤ maxUint256 then .ok (a + b)
  else .error "SafeMath: addition overflow"

def sub (a b : ℕ) : Outcome ℕ :=
  if b ≤ a then .ok (a - b) else .error "SafeMath: subtraction overflow"

def mul (a b : ℕ) : Outcome ℕ :=
  if a * b ≤ maxUint256 then .ok (a * b)
  else .error "SafeMath: multiplication overflow"

def div (a b : ℕ) : Outcome ℕ :=
  if 0 < b then .ok (a / b) else .error "SafeMath: division by zero"

@[simp]
theorem add_eq_ok {a b c : ℕ} :
    add a b = .ok c ↔ a + b ≤ maxUint256 ∧ a + b = c := by
  unfold add
  split <;> simp_all

@[simp]
theorem sub_eq_ok {a b c : ℕ} : sub a b = .ok c ↔ b ≤ a ∧ a - b = c := by
  unfold sub
  split <;> simp_all

@[simp]
theorem mul_eq_ok {a b c : ℕ} :
    mul a b = .ok c ↔ a * b ≤ maxUint256 ∧ a * b = c := by
  unfold mul
  split <;> simp_all

@[simp]
theorem div_eq_ok {a b c : ℕ} : div a b = .ok c ↔ 0 < b ∧ a / b = c := by
  unfold div
  split <;> simp_all

theorem arithmetic_add (a b : ℕ) : Arithmetic (add a b) :=
  RevertsOnly.ite (fun _ => revertsOnly_pure _) fun _ => revertsOnly_error (by decide)

theorem arithmetic_sub (a b : ℕ) : Arithmetic (sub a b) :=
  RevertsOnly.ite (fun _ => revertsOnly_pure _) fun _ => revertsOnly_error (by decide)

theorem arithmetic_mul (a b : ℕ) : Arithmetic (mul a b) :=
  RevertsOnly.ite (fun _ => revertsOnly_pure _) fun _ => revertsOnly_error (by decide)

theorem arithmetic_div (a b : ℕ) : Arithmetic (div a b) :=
  RevertsOnly.ite (fun _ => revertsOnly_pure _) fun _ => revertsOnly_error (by decide)

end SafeMath

namespace SignedSafeMath

def add (a b : ℤ) : Outcome ℤ :=
  if FitsInt256 (a + b) then .ok (a + b)
  else .error "SignedSafeMath: addition overflow"

def sub (a b : ℤ) : Outcome ℤ :=
  if FitsInt256 (a - b) then .ok (a - b)
  else .error "SignedSafeMath: subtraction overflow"

def mul (a b : ℤ) : Outcome ℤ :=
  if FitsInt256 (a * b) then .ok (a * b)
  else .error "SignedSafeMath: multiplication overflow"

/-- Division truncates towards zero. -/
def div (a b : ℤ) : Outcome ℤ :=
  if b = 0 then .error "SignedSafeMath: division by zero"
  else if b = -1 ∧ a = minInt256 then .error "SignedSafeMath: division overflow"
  else .ok (a.tdiv b)

@[simp]
theorem add_eq_ok {a b c : ℤ} :
    add a b = .ok c ↔ FitsInt256 (a + b) ∧ a + b = c := by
  unfold add
  split <;> simp_all

@[simp]
theorem sub_eq_ok {a b c : ℤ} :
    sub a b = .ok c ↔ FitsInt256 (a - b) ∧ a - b = c := by
  unfold sub
  split <;> simp_all

@[simp]
theorem mul_eq_ok {a b c : ℤ} :
    mul a b = .ok c ↔ FitsInt256 (a * b) ∧ a * b = c := by
  unfold mul
  split <;> simp_all

theorem div_eq_ok_of_pos {a b c : ℤ} (hb : 0 < b) :
    div a b = .ok c ↔ a.tdiv b = c := by
  have hzero : b ≠ 0 := by omega
  have hneg : b ≠ -1 := by omega
  simp [div, hzero, hneg]

theorem arithmetic_add (a b : ℤ) : Arithmetic (add a b) :=
  RevertsOnly.ite (fun _ => revertsOnly_pure _) fun _ => revertsOnly_error (by decide)

theorem arithmetic_mul (a b : ℤ) : Arithmetic (mul a b) :=
  RevertsOnly.ite (fun _ => revertsOnly_pure _) fun _ => revertsOnly_error (by decide)

theorem arithmetic_div (a b : ℤ) : Arithmetic (div a b) :=
  RevertsOnly.ite (fun _ => revertsOnly_error (by decide)) fun _ =>
    RevertsOnly.ite (fun _ => revertsOnly_error (by decide)) fun _ => revertsOnly_pure _

end SignedSafeMath

namespace SafeCast

def toUint256 (value : ℤ) : Outcome ℕ :=
  if 0 ≤ value then .ok value.toNat
  else .error "SafeCast: value must be positive"

def toInt256 (value : ℕ) : Outcome ℤ :=
  if (value : ℤ) ≤ maxInt256 then .ok (value : ℤ)
  else .error "SafeCast: value doesn't fit in an int256"

/-- The cast returns the very number it was given. -/
@[simp]
theorem toUint256_eq_ok {value : ℤ} {result : ℕ} :
    toUint256 value = .ok result ↔ value = (result : ℤ) := by
  unfold toUint256
  split
  · simp only [Except.ok.injEq]
    omega
  · simp only [reduceCtorEq, false_iff]
    omega

@[simp]
theorem toInt256_eq_ok {value : ℕ} {result : ℤ} :
    toInt256 value = .ok result ↔ (value : ℤ) ≤ maxInt256 ∧ (value : ℤ) = result := by
  unfold toInt256
  split <;> simp_all

theorem arithmetic_toUint256 (value : ℤ) : Arithmetic (toUint256 value) :=
  RevertsOnly.ite (fun _ => revertsOnly_pure _) fun _ => revertsOnly_error (by decide)

theorem arithmetic_toInt256 (value : ℕ) : Arithmetic (toInt256 value) :=
  RevertsOnly.ite (fun _ => revertsOnly_pure _) fun _ => revertsOnly_error (by decide)

end SafeCast

end SetProtocol
